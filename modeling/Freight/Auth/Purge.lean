import Freight.Auth.Revoked

/-! `ops/purge-expired-auth-codes.js`: refresh tokens that are dead are deleted while the endpoints are in use. -/

namespace Freight.Auth

/-- A row that `purgeDeadRefreshTokens` deletes: it expired, or was revoked, longer ago than the grace period. -/
def SessionToken.dead (grace now : Nat) (token : SessionToken) : Bool :=
  token.expiresAt + grace < now || token.revokedAt.any fun revokedAt => revokedAt + grace < now

/-- `purgeDeadRefreshTokens`. -/
def SessionStore.purgeDeadRefreshTokens (grace : Nat) (store : SessionStore) : SessionStore :=
  { store with tokens := store.tokens.filter fun token => !token.dead grace store.now }

/-- What can happen next where the job runs, at whatever moments. -/
inductive RetentionEvent where
  | session (event : SessionEvent)
  | purge

/-- The event of the endpoints' own. -/
def RetentionEvent.own : RetentionEvent → Option SessionEvent
  | .session event => some event
  | .purge => none

/-- One event. -/
def retentionStep (ext : SessionExternals) (grace : Nat) (pool : SessionPool) : RetentionEvent → SessionPool
  | .session event => (sessionSystem ext).step pool event
  | .purge => { pool with shared := pool.shared.purgeDeadRefreshTokens grace }

/-- Two stores that differ in dead rows only: one has what the other has of valid tokens, and all the rest. -/
structure SameValid (store purged : SessionStore) : Prop where
  rest : purged = { store with tokens := purged.tokens }
  tokens : purged.tokens.filter (SessionToken.valid store.now) = store.tokens.filter (SessionToken.valid store.now)

section

variable {store purged : SessionStore}

/-- What is looked up among the valid tokens is the same. -/
theorem validToken_eq (store : SessionStore) (number : Nat) :
    store.validToken number =
      (store.tokens.filter (SessionToken.valid store.now)).find? fun token => token.number = number := by
  -- Looking for a number among the valid ones is looking for a valid one of that number.
  unfold SessionStore.validToken
  rw [List.find?_filter]
  congr 1
  funext token
  unfold SessionToken.valid
  cases decide (token.number = number) <;> cases token.revokedAt.isNone <;> simp

/-- So it is found in the one store as in the other. -/
theorem SameValid.validToken (same : SameValid store purged) (number : Nat) :
    purged.validToken number = store.validToken number := by
  -- The search passes over what is not valid, and the two stores differ in nothing else.
  have now : purged.now = store.now := by rw [same.rest]
  rw [validToken_eq, validToken_eq, now, same.tokens]

/-- `refresh` looks a token up, and takes nothing else from the store. -/
theorem next_validate (ext : SessionExternals) (store : SessionStore) (answer : SessionAnswer) (number : Nat) :
    (SessionCall.validate number).next ext store answer =
      (.nothing, if answer.fails then (SessionCall.validate number).caught
        else match store.validToken number with
          | none => refused ⟨401, "AUTH_REFRESH_TOKEN_INVALID", "Refresh token is invalid, expired, or revoked."⟩
          | some token => .readUser token) := by
  -- Its statement is answered first, and its token looked up then.
  show (if answer.fails then _ else _) = _
  split <;> rfl

/-- A request takes the same step in both: tokens are only ever looked up. -/
theorem SameValid.next (same : SameValid store purged) (ext : SessionExternals) (answer : SessionAnswer)
    (call : SessionCall) : call.next ext purged answer = call.next ext store answer := by
  -- The step that looks a token up finds the same one; the others read no token at all.
  cases call with
  | validate number => rw [next_validate, next_validate, same.validToken number]
  | _ =>
    rw [same.rest]
    rfl

/-- Rows of which some are made invalid by a change, and the others are left alone. -/
theorem filter_valid_map {now : Nat} (change : SessionToken → SessionToken) (drops : SessionToken → Bool)
    (dropped : ∀ token, drops token = true → (change token).valid now = false)
    (left : ∀ token, drops token = false → change token = token) (rows : List SessionToken) :
    (rows.map change).filter (SessionToken.valid now) =
      (rows.filter (SessionToken.valid now)).filter fun token => !drops token := by
  -- Row by row: what is dropped is valid neither before nor after, and what is left is as it was.
  induction rows with
  | nil => rfl
  | cons token rest ih =>
    rw [List.map_cons]
    cases out : drops token with
    | true =>
      rw [List.filter_cons_of_neg (by rw [dropped token out]; exact Bool.false_ne_true), ih]
      cases still : token.valid now with
      | true => rw [List.filter_cons_of_pos still, List.filter_cons_of_neg (by rw [out]; exact Bool.false_ne_true)]
      | false => rw [List.filter_cons_of_neg (by rw [still]; exact Bool.false_ne_true)]
    | false =>
      rw [left token out]
      cases still : token.valid now with
      | true =>
        rw [List.filter_cons_of_pos still, List.filter_cons_of_pos still,
          List.filter_cons_of_pos (by rw [out]; rfl), ih]
      | false =>
        rw [List.filter_cons_of_neg (by rw [still]; exact Bool.false_ne_true),
          List.filter_cons_of_neg (by rw [still]; exact Bool.false_ne_true), ih]

/-- A statement does the same in both. -/
theorem SameValid.execute (same : SameValid store purged) (statement : SessionStatement) :
    SameValid (statement.execute store) (statement.execute purged) := by
  obtain ⟨rest, tokens⟩ := same
  generalize purged.tokens = others at rest tokens
  subst rest
  -- A change of rows by which some are made invalid leaves the same rows valid in both.
  have mapped : ∀ (change : SessionToken → SessionToken) (drops : SessionToken → Bool),
      (∀ token, drops token = true → (change token).valid store.now = false) →
      (∀ token, drops token = false → change token = token) →
      (others.map change).filter (SessionToken.valid store.now) =
        (store.tokens.map change).filter (SessionToken.valid store.now) := by
    intro change drops dropped left
    rw [filter_valid_map change drops dropped left, filter_valid_map change drops dropped left, tokens]
  cases statement with
  | revoke number =>
    refine ⟨rfl, mapped _ (fun token => token.number = number) (fun token own => ?_) fun token apart => ?_⟩
    · rw [if_pos (of_decide_eq_true own)]
      rfl
    · exact if_neg (of_decide_eq_false apart)
  | rotate number =>
    refine ⟨rfl, mapped _ (fun token => token.number = number) (fun token own => ?_) fun token apart => ?_⟩
    · rw [if_pos (of_decide_eq_true own)]
      rfl
    · exact if_neg (of_decide_eq_false apart)
  -- The new row goes to the front of both.
  | insertToken username via =>
    refine ⟨rfl, ?_⟩
    show (others ++ [_]).filter _ = (store.tokens ++ [_]).filter _
    rw [List.filter_append, List.filter_append]
    exact congrArg (· ++ _) tokens
  -- All the rows of one account are made invalid, in the store as in the other.
  | revokeAll ending last =>
    refine ⟨rfl, mapped _ (fun token => token.username = ending.username ∧ token.revokedAt = none)
      (fun token own => ?_) fun token apart => ?_⟩
    · rw [if_pos (of_decide_eq_true own)]
      rfl
    · exact if_neg (of_decide_eq_false apart)
  | _ => exact ⟨rfl, tokens⟩

/-- What is valid later is valid before. -/
theorem SessionToken.valid_before {now elapsed : Nat} {token : SessionToken}
    (valid : token.valid (now + elapsed) = true) : token.valid now = true := by
  -- It is not revoked, and expires later still.
  simp only [SessionToken.valid, Bool.and_eq_true, decide_eq_true_eq] at valid ⊢
  exact ⟨valid.1, by omega⟩

/-- So does what happens outside the requests, the passing of time included. -/
theorem SameValid.happen (same : SameValid store purged) (event : SessionOutside) :
    SameValid (event.happen store) (event.happen purged) := by
  obtain ⟨rest, tokens⟩ := same
  generalize purged.tokens = others at rest tokens
  subst rest
  cases event with
  | wait elapsed =>
    refine ⟨rfl, ?_⟩
    -- What is valid later is valid now.
    have later : ∀ rows : List SessionToken, rows.filter (SessionToken.valid (store.now + elapsed)) =
        (rows.filter (SessionToken.valid store.now)).filter (SessionToken.valid (store.now + elapsed)) := by
      intro rows
      rw [List.filter_filter]
      refine List.filter_congr fun token _ => ?_
      cases still : token.valid (store.now + elapsed) with
      | false => rfl
      | true => rw [SessionToken.valid_before still]; rfl
    show others.filter (SessionToken.valid (store.now + elapsed)) =
      store.tokens.filter (SessionToken.valid (store.now + elapsed))
    rw [later others, tokens, ← later]
  | _ => exact ⟨rfl, tokens⟩

/-- Dead rows are not valid. -/
theorem SessionToken.not_dead_of_valid {grace now : Nat} {token : SessionToken} (valid : token.valid now = true) :
    token.dead grace now = false := by
  -- It is not revoked, and a grace after its expiry has not passed either.
  simp only [SessionToken.valid, Bool.and_eq_true, Option.isNone_iff_eq_none, decide_eq_true_eq] at valid
  simp only [SessionToken.dead, valid.1, Option.any_none, Bool.or_false, decide_eq_false_iff_not]
  omega

/-- A purge is not seen. -/
theorem SameValid.purges (same : SameValid store purged) (grace : Nat) :
    SameValid store (purged.purgeDeadRefreshTokens grace) := by
  -- What the job deletes has expired or been revoked long ago, so it was not valid before either.
  have now : purged.now = store.now := by rw [same.rest]
  refine ⟨?_, ?_⟩
  · show { purged with tokens := _ } = { store with tokens := _ }
    rw [same.rest]
    rfl
  · rw [← same.tokens]
    show (purged.tokens.filter _).filter _ = _
    rw [List.filter_filter]
    refine List.filter_congr fun token _ => ?_
    cases still : token.valid store.now with
    | false => rfl
    | true =>
      rw [now, SessionToken.not_dead_of_valid still]
      rfl

end

/-- One run beside the other. -/
structure Unseen (pool purged : SessionPool) : Prop where
  calls : purged.calls = pool.calls
  shared : SameValid pool.shared purged.shared

/-- An event of the endpoints takes both further in step. -/
theorem Unseen.step {pool purged : SessionPool} (unseen : Unseen pool purged) (ext : SessionExternals)
    (event : SessionEvent) : Unseen ((sessionSystem ext).step pool event) ((sessionSystem ext).step purged event) := by
  -- Both have the same requests in flight, and each statement does to the valid tokens what it does in the other.
  obtain ⟨store, requests⟩ := pool
  obtain ⟨deleted, others⟩ := purged
  obtain ⟨calls, shared⟩ := unseen
  obtain rfl : others = requests := calls
  cases event with
  | call entry => exact ⟨rfl, shared⟩
  | stop index => exact ⟨rfl, shared⟩
  | outside event =>
    have free : (sessionSystem ext).Free [] others := fun _ _ _ needed => absurd needed List.not_mem_nil
    have happens : ∀ shared : SessionStore, (sessionSystem ext).step ⟨shared, others⟩ (.outside event) =
        ⟨event.happen shared, others⟩ := fun _ => if_pos free
    rw [happens, happens]
    exact ⟨rfl, shared.happen event⟩
  | run index answer =>
    cases found : others[index]? with
    -- No request is under that index in either.
    | none =>
      have still : ∀ shared : SessionStore, (sessionSystem ext).step ⟨shared, others⟩ (.run index answer) =
          ⟨shared, others⟩ := by
        intro shared
        simp only [CallSystem.step, found]
      rw [still, still]
      exact ⟨rfl, shared⟩
    | some call =>
      rw [(sessionSystem ext).step_lockless rfl found, (sessionSystem ext).step_lockless rfl found]
      have next : (sessionSystem ext).next deleted answer call = (sessionSystem ext).next store answer call :=
        shared.next ext answer call
      refine ⟨?_, ?_⟩
      · show others.set index ((sessionSystem ext).next deleted answer call).2 = _
        rw [next]
      · show SameValid _ ((sessionSystem ext).execute ((sessionSystem ext).next deleted answer call).1 deleted)
        rw [next]
        exact shared.execute _

/--
Deleting dead refresh tokens is not seen: whatever the endpoints are asked, in whatever order, and whenever the job
runs among it, every request stands where it would without the job, and what is found of any token is the same.
-/
theorem purge_unseen (ext : SessionExternals) (grace : Nat) (pool : SessionPool) (events : List RetentionEvent) :
    let kept := run (sessionSystem ext).step pool (events.filterMap RetentionEvent.own)
    let purged := run (retentionStep ext grace) pool events
    purged.calls = kept.calls ∧ purged.shared = { kept.shared with tokens := purged.shared.tokens } ∧
      ∀ number, purged.shared.validToken number = kept.shared.validToken number := by
  -- Event by event the two runs stay in step, and the job alone moves only one of them.
  have unseen : Unseen (run (sessionSystem ext).step pool (events.filterMap RetentionEvent.own))
      (run (retentionStep ext grace) pool events) := by
    refine run_simulated (fun one other event own unseen same => ?_) (fun one other event unseen own => ?_)
      ⟨rfl, ⟨rfl, rfl⟩⟩ events
    · cases event with
      | session shared =>
        cases same
        exact unseen.step ext own
      | purge => cases same
    · cases event with
      | session event => cases own
      | purge => exact ⟨unseen.calls, unseen.shared.purges grace⟩
  exact ⟨unseen.calls, unseen.shared.rest, fun number => unseen.shared.validToken number⟩

end Freight.Auth
