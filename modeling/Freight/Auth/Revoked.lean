import Freight.Auth.OtpGuesses
import Freight.Auth.Sessions

/-! Whether a revocation is final, and whether a suspended account is kept out: which interleavings see to both. -/

namespace Freight.Auth

/-- The account a request is on its way to issue tokens to, as it was read. -/
def SessionCall.reading : SessionCall → Option Person
  | .spendRecovery user _ _ | .rotate user _ | .issue user _ | .storePin user _ | .auditPin user => some user
  | _ => none

/-- The revocation a request has set out to make. -/
def SessionCall.ending : SessionCall → Option Revocation
  | .storePassword ending _ | .revokeOwn ending | .countOthers _ ending | .storeStatus _ _ ending
  | .revokeAll ending _ => some ending
  | _ => none

/-- The revocation that a request is about to answer for. -/
def SessionCall.ended : SessionCall → Option Revocation
  | .audit ended _ => ended
  | _ => none

/-- The tokens a request is about to store: whose, and by which way. -/
def SessionCall.issuing : SessionCall → Option (Person × Via)
  | .issue user via => some (user, via)
  | _ => none

/-- The session that is carried on by tokens issued that way. -/
def Via.carriesOn : Via → Option Nat
  | .exchange _ session => some session
  | _ => none

/-- The next statement looks an account up without looking at its status. -/
def SessionCall.overlooks : SessionCall → Bool
  | .readFactor .. | .readUser _ | .readOnboarding .. => true
  | _ => false

section
variable {ext : SessionExternals} {store : SessionStore} {answer : SessionAnswer} {call : SessionCall}

/-- A statement works, or fails and is answered for. -/
theorem SessionCall.next_cases (ext : SessionExternals) (store : SessionStore) (answer : SessionAnswer)
    (call : SessionCall) : call.next ext store answer = call.proceed ext store answer ∨
      call.next ext store answer = (.nothing, call.caught) ∧ ∃ response, call.caught = .done response := by
  -- A statement that fails ends its request in the catch block; one that works goes on.
  by_cases fails : answer.fails = true
  · cases call with
    | otp | audit | auditPin | done | stopped | readFactor | findInvitee | readOnboarding | readPin => exact .inl rfl
    | issue user via => cases via <;> exact .inr ⟨if_pos fails, _, rfl⟩
    | revokeAll ending response => cases response <;> exact .inr ⟨if_pos fails, _, rfl⟩
    | _ => exact .inr ⟨if_pos fails, _, rfl⟩
  · cases call with
    | otp | audit | auditPin | done | stopped | readFactor | findInvitee | readOnboarding | readPin => exact .inl rfl
    | _ => exact .inl (if_neg fails)

/-- A login goes on to tokens for an account that is not suspended. -/
theorem afterUser_reading {now : Nat} {password : String} {found : Option Person} {user : Person}
    (reads : (afterUser ext now password found).reading = some user) : user.status ≠ .suspended := by
  -- Every branch that does not end has passed the check of the status.
  unfold afterUser at reads
  repeat' split at reads
  all_goals cases reads
  rename_i admitted _
  intro suspended
  rw [suspended] at admitted
  cases admitted

/-- So does a login by PIN. -/
theorem afterPin_reading {pin : String} {found : Option Person} {user : Person}
    (reads : (afterPin ext pin found).reading = some user) : user.status ≠ .suspended := by
  -- The one branch that reads on is behind the check of the status.
  unfold afterPin at reads
  repeat' split at reads
  all_goals cases reads
  assumption

/-- A request goes on for the account it read, or reads one: unsuspended, unless it overlooks that. -/
theorem SessionCall.next_reading {user : Person} (reads : (call.next ext store answer).2.reading = some user) :
    call.reading = some user ∨ call.overlooks = true ∨ user.status ≠ .suspended := by
  rcases call.next_cases ext store answer with works | ⟨fails, response, caught⟩
  · rw [works] at reads
    cases call with
    -- These do not look at the status of what they find.
    | readFactor | readUser | readOnboarding => exact .inr (.inl rfl)
    | findUser username password => exact .inr (.inr (afterUser_reading reads))
    | readPin session pin =>
      simp only [SessionCall.proceed] at reads
      repeat' split at reads
      · cases reads
      · cases reads
      · cases reads
      · exact .inr (.inr (afterPin_reading reads))
    -- These go on for the account they have.
    | spendRecovery | rotate | storePin | auditPin => exact .inl reads
    -- No other request has an account after its statement.
    | otp inner =>
      simp only [SessionCall.proceed, Prod.map_snd] at reads
      split at reads <;> cases reads
    | _ =>
      simp only [SessionCall.proceed, afterTarget, afterPassword] at reads
      repeat' split at reads
      all_goals cases reads
  · rw [fails, caught] at reads
    cases reads

/-- A request makes the revocation it set out to, or sets out to make one now. -/
theorem SessionCall.next_ending {ending : Revocation} (ends : (call.next ext store answer).2.ending = some ending) :
    call.ending = some ending ∨ ending.before = store.serial := by
  rcases call.next_cases ext store answer with works | ⟨fails, response, caught⟩
  · rw [works] at ends
    cases call with
    -- These are on their way to the revocation they set out to.
    | storePassword | storeStatus | countOthers =>
      simp only [SessionCall.proceed] at ends
      repeat' split at ends
      all_goals first | exact .inl ends | cases ends
    | otp inner =>
      simp only [SessionCall.proceed, Prod.map_snd] at ends
      split at ends <;> cases ends
    | _ =>
      simp only [SessionCall.proceed, afterUser, afterFactor, afterPin, afterOnboarding, afterTarget,
        afterPassword] at ends
      repeat' split at ends
      all_goals cases ends
      -- A revocation is for the sessions begun before it, up to the serial it draws.
      all_goals exact .inr rfl
  · rw [fails, caught] at ends
    cases ends

/-- A request answers for a revocation once the tokens have been revoked. -/
theorem SessionCall.next_ended {ending : Revocation} (ends : (call.next ext store answer).2.ended = some ending) :
    (call.next ext store answer).1 = .revokeAll ending false := by
  rcases call.next_cases ext store answer with works | ⟨fails, response, caught⟩
  · rw [works] at ends ⊢
    cases call with
    | revokeAll own response =>
      cases ends
      rfl
    | otp inner =>
      simp only [SessionCall.proceed, Prod.map_snd] at ends
      split at ends <;> cases ends
    -- No other request answers for a revocation next.
    | _ =>
      simp only [SessionCall.proceed, afterUser, afterFactor, afterPin, afterOnboarding, afterTarget,
        afterPassword] at ends
      repeat' split at ends
      all_goals cases ends
  · rw [fails, caught] at ends
    cases ends

/-- Tokens are issued by the request that is about to. -/
theorem SessionCall.insertToken_of_next {username : String} {via : Via}
    (inserts : (call.next ext store answer).1 = .insertToken username via) :
    ∃ user, call = .issue user via ∧ user.username = username := by
  -- A statement that fails writes nothing, and of those that work one inserts.
  rcases call.next_cases ext store answer with works | ⟨fails, -⟩
  · rw [works] at inserts
    cases call with
    | issue user own =>
      cases inserts
      exact ⟨user, rfl, rfl⟩
    | _ => cases inserts
  · rw [fails] at inserts
    cases inserts

/-- Tokens are revoked all at once by the request that set out to. -/
theorem SessionCall.revokeAll_of_next {ending : Revocation} {last : Bool}
    (revokes : (call.next ext store answer).1 = .revokeAll ending last) : call.ending = some ending := by
  -- Two of the statements that work revoke all tokens, each for the revocation its request has set out on.
  rcases call.next_cases ext store answer with works | ⟨fails, -⟩
  · rw [works] at revokes
    cases call with
    | revokeOwn | revokeAll =>
      cases revokes
      rfl
    | _ => cases revokes
  · rw [fails] at revokes
    cases revokes

/-- A revocation is answered for by the request that made it. -/
theorem SessionCall.audit_of_next {ended : Option Revocation}
    (audits : (call.next ext store answer).1 = .audit ended) : call.ended = ended := by
  -- One of the statements that work answers for a revocation.
  rcases call.next_cases ext store answer with works | ⟨fails, -⟩
  · rw [works] at audits
    cases call with
    | audit own response =>
      cases audits
      rfl
    | _ => cases audits
  · rw [fails] at audits
    cases audits

/-- A token can be exchanged still. -/
def SessionToken.valid (now : Nat) (token : SessionToken) : Bool := token.revokedAt.isNone && now < token.expiresAt

/-- Once a revocation was answered with success, no token of a session from before it can be exchanged. -/
def RevokedForGood (store : SessionStore) : Prop :=
  ∀ ending ∈ store.returned, ∀ token ∈ store.tokens, token.username = ending.username →
    token.session < ending.before → token.valid store.now = false

/-- No event issues tokens to an account that is suspended. -/
def KeepsOut (ext : SessionExternals) (pool : SessionPool) : SessionEvent → Prop
  | .run index answer => ∀ call ∈ pool.calls[index]?, ∀ username via,
    (call.next ext pool.shared answer).1 = .insertToken username via →
      ∀ user ∈ pool.shared.users.find? username, user.status ≠ .suspended
  | _ => True

/--
What a request read on its way to tokens holds when they are stored.

No account that was not suspended has been suspended in between, and no revocation from after the session began
has revoked the tokens there were.
-/
def SessionCall.UpToDate (store : SessionStore) (call : SessionCall) : Prop :=
  ∀ issue ∈ call.issuing,
    (issue.1.status ≠ .suspended → ∀ user ∈ store.users.find? issue.1.username, user.status ≠ .suspended) ∧
      ∀ session ∈ issue.2.carriesOn, ∀ ending ∈ store.swept,
        ending.username = issue.1.username → ending.before ≤ session

instance (store : SessionStore) : DecidablePred (SessionCall.UpToDate store) := fun call =>
  inferInstanceAs (Decidable (∀ issue ∈ call.issuing, _))

/-- A request that does not look at the status has no suspended account before it when it goes on. -/
def SessionCall.Looks (ext : SessionExternals) (store : SessionStore) (answer : SessionAnswer)
    (call : SessionCall) : Prop :=
  call.overlooks = true → ∀ user ∈ (call.next ext store answer).2.reading, user.status ≠ .suspended

instance (ext : SessionExternals) (store : SessionStore) (answer : SessionAnswer) :
    DecidablePred (SessionCall.Looks ext store answer) := fun call =>
  inferInstanceAs (Decidable (call.overlooks = true → ∀ user ∈ (call.next ext store answer).2.reading, _))

/-- The request that runs looks, and is up to date. -/
def Attentive (ext : SessionExternals) (pool : SessionPool) : SessionEvent → Prop
  | .run index answer => ∀ call ∈ pool.calls[index]?, call.UpToDate pool.shared ∧ call.Looks ext pool.shared answer
  | _ => True

instance (ext : SessionExternals) (pool : SessionPool) : DecidablePred (Attentive ext pool)
  | .run index _ => inferInstanceAs (Decidable (∀ call ∈ pool.calls[index]?, _))
  | .call _ | .stop _ | .outside _ => inferInstanceAs (Decidable True)

/-- What is kept of revocations and of the accounts read while requests are in flight. -/
structure Ended (store : SessionStore) (calls : List SessionCall) : Prop where
  /-- Tokens that are not revoked are of sessions that no revocation was to end. -/
  swept : ∀ ending ∈ store.swept, ending.before ≤ store.serial ∧ ∀ token ∈ store.tokens,
    token.username = ending.username → token.revokedAt = none → ending.before ≤ token.session
  returned : ∀ ending ∈ store.returned, ending ∈ store.swept
  begun : ∀ call ∈ calls, ∀ ending, call.ending = some ending → ending.before ≤ store.serial
  ended : ∀ call ∈ calls, ∀ ending, call.ended = some ending → ending ∈ store.swept
  admitted : ∀ call ∈ calls, ∀ user, call.reading = some user → user.status ≠ .suspended

/-- What is kept of the revocations is that they are for good. -/
theorem Ended.revokedForGood {calls : List SessionCall} (inv : Ended store calls) : RevokedForGood store := by
  -- A token with no mark would have been issued after the revocation was made.
  intro ending returned token listed own earlier
  by_cases revoked : token.revokedAt = none
  · have later := (inv.swept ending (inv.returned ending returned)).2 token listed own revoked
    omega
  · rw [SessionToken.valid, Option.isNone_eq_false_iff.mpr (Option.ne_none_iff_isSome.mp revoked), Bool.false_and]

/-- Serials are only drawn upwards, and what has been revoked stays on record. -/
theorem SessionStatement.execute_grows (statement : SessionStatement) (store : SessionStore) :
    store.serial ≤ (statement.execute store).serial ∧ ∀ ending ∈ store.swept, ending ∈ (statement.execute store).swept := by
  -- Three statements draw a serial, one adds to what has been revoked.
  cases statement with
  | insertToken | setPin | setPassword => exact ⟨Nat.le_succ _, fun _ swept => swept⟩
  | revokeAll ending last => exact ⟨le_rfl, fun _ swept => List.mem_append_left _ swept⟩
  | _ => exact ⟨le_rfl, fun _ swept => swept⟩

/-- A token after a statement is the one that was inserted, or one there was, revoked where it was revoked. -/
theorem SessionStatement.mem_execute_tokens {statement : SessionStatement} {token : SessionToken}
    (listed : token ∈ (statement.execute store).tokens) :
    (∃ username via, statement = .insertToken username via ∧ token = store.newToken username via) ∨
      ∃ old ∈ store.tokens, token.number = old.number ∧ token.username = old.username ∧
        token.session = old.session ∧ (token.revokedAt = none → old.revokedAt = none) := by
  cases statement with
  | insertToken username via =>
    rcases List.mem_append.mp listed with old | new
    · exact .inr ⟨token, old, rfl, rfl, rfl, id⟩
    · exact .inl ⟨username, via, rfl, List.mem_singleton.mp new⟩
  | revoke | rotate | revokeAll =>
    -- Only the mark of revocation changes, and it is never taken off.
    obtain ⟨old, before, rfl⟩ := List.mem_map.mp listed
    refine .inr ⟨old, before, ?_⟩
    split
    · exact ⟨rfl, rfl, rfl, fun revoked => by cases revoked⟩
    · exact ⟨rfl, rfl, rfl, id⟩
  | _ => exact .inr ⟨token, listed, rfl, rfl, rfl, id⟩

/-- After all of an account's tokens have been revoked, none of them is left. -/
theorem revokeAll_tokens {ending : Revocation} {last : Bool} {token : SessionToken}
    (listed : token ∈ ((SessionStatement.revokeAll ending last).execute store).tokens)
    (own : token.username = ending.username) : token.revokedAt ≠ none := by
  -- Each token of the account is revoked in the same UPDATE, or was before.
  obtain ⟨old, before, rfl⟩ := List.mem_map.mp listed
  split at own
  · rename_i revoked
    simp [revoked]
  · rename_i spared
    simp only [if_neg spared]
    exact fun none => spared ⟨own, none⟩

/-- What has been revoked after a statement had been before it, or is revoked by it. -/
theorem SessionStatement.mem_execute_swept {statement : SessionStatement} {ending : Revocation}
    (swept : ending ∈ (statement.execute store).swept) :
    ending ∈ store.swept ∨ ∃ last, statement = .revokeAll ending last := by
  -- One statement alone adds to what has been revoked.
  cases statement with
  | revokeAll own last =>
    rcases List.mem_append.mp swept with old | new
    · exact .inl old
    · exact .inr ⟨last, by rw [List.mem_singleton.mp new]⟩
  | _ => exact .inl swept

/-- What has been answered for after a statement had been before it, or is answered for with it. -/
theorem SessionStatement.mem_execute_returned {statement : SessionStatement} {ending : Revocation}
    (returned : ending ∈ (statement.execute store).returned) :
    ending ∈ store.returned ∨ (∃ last, statement = .revokeAll ending last) ∨ statement = .audit (some ending) := by
  cases statement with
  | revokeAll own last =>
    simp only [SessionStatement.execute] at returned
    -- Only the last statement of a revocation answers for it.
    split at returned
    · rcases List.mem_append.mp returned with old | new
      · exact .inl old
      · exact .inr (.inl ⟨last, by rw [List.mem_singleton.mp new]⟩)
    · exact .inl returned
  | audit ended =>
    rcases List.mem_append.mp returned with old | new
    · exact .inl old
    · exact .inr (.inr (by rw [Option.mem_toList.mp new]))
  | _ => exact .inl returned

namespace Ended

variable {others : List SessionCall}

/-- A statement leaves no token of a session that a revocation was to end, where its request is up to date. -/
theorem next_swept (inv : Ended store (call :: others)) (upToDate : call.UpToDate store) :
    ∀ ending ∈ ((call.next ext store answer).1.execute store).swept,
      ending.before ≤ ((call.next ext store answer).1.execute store).serial ∧
      ∀ token ∈ ((call.next ext store answer).1.execute store).tokens, token.username = ending.username →
        token.revokedAt = none → ending.before ≤ token.session := by
  intro ending swept
  have grows := (call.next ext store answer).1.execute_grows store
  rcases SessionStatement.mem_execute_swept swept with old | ⟨last, revokes⟩
  · obtain ⟨drawn, later⟩ := inv.swept ending old
    refine ⟨drawn.trans grows.1, fun token listed own revoked => ?_⟩
    rcases SessionStatement.mem_execute_tokens listed with ⟨username, via, inserts, rfl⟩ |
        ⟨before, found, -, name, session, still⟩
    · obtain ⟨user, rfl, rfl⟩ := SessionCall.insertToken_of_next inserts
      -- A new token belongs to the session it was exchanged in, or begins one behind every revocation.
      cases via with
      | exchange number session => exact (upToDate _ rfl).2 session rfl ending old own.symm
      | _ => exact drawn
    · rw [session]
      exact later before found (name.symm.trans own) (still revoked)
  · -- The statement that revokes leaves none of the account in use.
    have drawn := inv.begun call List.mem_cons_self ending (SessionCall.revokeAll_of_next revokes)
    refine ⟨drawn.trans grows.1, fun token listed own revoked => ?_⟩
    rw [revokes] at listed
    exact absurd revoked (revokeAll_tokens listed own)

/-- What is answered for has been revoked. -/
theorem next_returned (inv : Ended store (call :: others)) :
    ∀ ending ∈ ((call.next ext store answer).1.execute store).returned,
      ending ∈ ((call.next ext store answer).1.execute store).swept := by
  -- It was revoked before, or is now, or its request says that it has been.
  intro ending returned
  have grows := (call.next ext store answer).1.execute_grows store
  rcases SessionStatement.mem_execute_returned returned with old | ⟨last, revokes⟩ | audits
  · exact grows.2 ending (inv.returned ending old)
  · rw [revokes]
    exact List.mem_append_right _ List.mem_cons_self
  · exact grows.2 ending (inv.ended call List.mem_cons_self ending (SessionCall.audit_of_next audits))

/-- A request that looks and is up to date keeps what is kept. -/
theorem next (inv : Ended store (call :: others)) (upToDate : call.UpToDate store)
    (looks : call.Looks ext store answer) :
    Ended ((call.next ext store answer).1.execute store) ((call.next ext store answer).2 :: others) := by
  have grows := (call.next ext store answer).1.execute_grows store
  -- What is asked of the requests in flight is asked of the one that moved, and of the others as before.
  refine ⟨inv.next_swept upToDate, inv.next_returned, ?_, ?_, ?_⟩ <;> intro one member
  · intro ending ends
    rcases List.mem_cons.mp member with rfl | other
    · rcases call.next_ending ends with before | drawn
      · exact (inv.begun call List.mem_cons_self ending before).trans grows.1
      · exact drawn.trans_le grows.1
    · exact (inv.begun one (List.mem_cons_of_mem _ other) ending ends).trans grows.1
  · intro ending ends
    rcases List.mem_cons.mp member with rfl | other
    · rw [SessionCall.next_ended ends]
      exact List.mem_append_right _ List.mem_cons_self
    · exact grows.2 ending (inv.ended one (List.mem_cons_of_mem _ other) ending ends)
  · intro user reads
    rcases List.mem_cons.mp member with rfl | other
    · rcases call.next_reading reads with before | overlooks | admitted
      · exact inv.admitted call List.mem_cons_self user before
      · exact looks overlooks user reads
      · exact admitted
    · exact inv.admitted one (List.mem_cons_of_mem _ other) user reads

end Ended

/-- A request that arrives reads nothing yet, and has ended nothing. -/
theorem SessionEntry.start_idle (ext : SessionExternals) (entry : SessionEntry) :
    (entry.start ext).reading = none ∧ (entry.start ext).ending = none ∧ (entry.start ext).ended = none := by
  -- A request starts by refusing its input or by its first lookup.
  cases entry with
  | refresh token => cases token <;> exact ⟨rfl, rfl, rfl⟩
  | logout token => cases token <;> exact ⟨rfl, rfl, rfl⟩
  | login | changePassword | updateUserStatus =>
    simp only [SessionEntry.start]
    split <;> exact ⟨rfl, rfl, rfl⟩
  | _ => exact ⟨rfl, rfl, rfl⟩

/-- What is kept is kept by every event whose request looks and is up to date. -/
theorem ended_keeps (ext : SessionExternals) : (sessionSystem ext).Keeps Ended (Attentive ext) where
  perm same inv :=
    { inv with
      begun := fun call member => inv.begun call (same.mem_iff.mpr member)
      ended := fun call member => inv.ended call (same.mem_iff.mpr member)
      admitted := fun call member => inv.admitted call (same.mem_iff.mpr member) }
  moves := by
    intro pool index answer call others taken inv attentive
    obtain ⟨upToDate, looks⟩ := attentive call taken.found
    exact inv.next upToDate looks
  arrives := by
    intro pool entry inv _
    -- A request that has just come in has read, ended and admitted nothing.
    obtain ⟨reads, ends, ended⟩ := entry.start_idle ext
    refine { inv with begun := ?_, ended := ?_, admitted := ?_ } <;> intro one member found is <;>
      rcases List.mem_cons.mp member with rfl | old
    · cases ends.symm.trans is
    · exact inv.begun one old found is
    · cases ended.symm.trans is
    · exact inv.ended one old found is
    · cases reads.symm.trans is
    · exact inv.admitted one old found is
  -- One that has stopped has nothing more to end or admit.
  stops := by
    intro pool index call others _ inv _
    refine { inv with begun := ?_, ended := ?_, admitted := ?_ } <;> intro one member found is <;>
      rcases List.mem_cons.mp member with rfl | other
    · cases is
    · exact inv.begun one (List.mem_cons_of_mem _ other) found is
    · cases is
    · exact inv.ended one (List.mem_cons_of_mem _ other) found is
    · cases is
    · exact inv.admitted one (List.mem_cons_of_mem _ other) found is
  happens := by
    intro pool event inv _ _
    cases event <;> exact ⟨inv.swept, inv.returned, inv.begun, inv.ended, inv.admitted⟩

/-- Tokens go to nobody who is suspended, where the request was admitted and is up to date. -/
theorem keepsOut_of_attentive {pool : SessionPool} {event : SessionEvent} (inv : Ended pool.shared pool.calls)
    (attentive : Attentive ext pool event) : KeepsOut ext pool event := by
  -- The request that issues is one that read an account, and the condition says that account is still as it was read.
  cases event with
  | run index answer =>
    intro call found username via inserts user stored
    obtain ⟨reader, rfl, rfl⟩ := SessionCall.insertToken_of_next inserts
    have admitted := inv.admitted _ (List.mem_of_getElem? found) reader rfl
    exact ((attentive _ found).1 _ rfl).1 admitted user stored
  | _ => trivial

end

/--
A revocation is final and a suspended account is kept out, where every request looks and is up to date.

Whatever requests are in flight, and however their statements interleave.
-/
theorem revocation_final {ext : SessionExternals} {pool : SessionPool} {events : List SessionEvent}
    (idle : pool.calls = []) (swept : pool.shared.swept = []) (returned : pool.shared.returned = [])
    (attentive : Along (sessionSystem ext).step (Attentive ext) pool events) :
    Throughout (sessionSystem ext).step (fun pool => RevokedForGood pool.shared) pool events ∧
      Along (sessionSystem ext).step (KeepsOut ext) pool events := by
  -- At the start nothing is in flight and nothing has been revoked.
  have start : Ended pool.shared pool.calls := by
    rw [idle]
    refine ⟨?_, ?_, by simp, by simp, by simp⟩
    · rw [swept]
      simp
    · rw [returned]
      simp
  constructor
  · exact ((ended_keeps ext).throughout start attentive).mono fun _ inv => inv.revokedForGood
  · -- What is kept is carried to the state each event starts from.
    refine along_iff_each.mpr fun prior event rest same => ?_
    have before := attentive.before ⟨event :: rest, same.symm⟩
    have inv := ((ended_keeps ext).throughout start before).last
    exact keepsOut_of_attentive inv (along_iff_each.mp attentive prior event rest same)

/-- Passwords and codes are compared as they are, and nothing is hashed. -/
def plainSessions : SessionExternals where
  compare := fun password hash => password = hash
  hash := fun _ password => password
  generateSecret := fun _ => "secret"
  verify := fun _ _ _ => true
  recoveryCodes := fun _ => []
  hashCode := id
  toUpperCase := id
  otp := plainExternals

/-- A dispatcher, and a session of theirs. -/
def oneSignedIn : SessionPool where
  shared := {
    users := ⟨[{ username := "dispatch1", passwordHash := some "password", role := .dispatcher, id := 1 }],
      List.nodup_singleton _⟩
    tokens := [{ number := 0, username := "dispatch1", expiresAt := 100, session := 0 }]
    serial := 1 }
  calls := []

/-- The session is carried on and then revoked; the account is suspended, and tries to sign in again. -/
def carriedOnThenRevoked : List SessionEvent :=
  [.call (.refresh (some 0)), .run 0 {}, .run 0 {}, .run 0 {}, .run 0 {},
    .call (.revokeUserSessions 1), .run 1 {}, .run 1 {}, .run 1 {},
    .call (.updateUserStatus { username := "ann", role := .admin } 1 (some "suspended")), .run 2 {}, .run 2 {},
    .run 2 {}, .run 2 {}, .call (.login (some "dispatch1") (some "password")), .run 3 {}]

/-- The session is revoked while its token is being exchanged. -/
def revokedAcrossExchange : List SessionEvent :=
  [.call (.refresh (some 0)), .run 0 {}, .run 0 {},
    .call (.revokeUserSessions 1), .run 1 {}, .run 1 {}, .run 1 {}, .run 0 {}, .run 0 {}]

/-- A session that has been carried on ends with its revocation, and a suspended account gets no other. -/
theorem revocation_final_carriedOn :
    (Throughout (sessionSystem plainSessions).step (fun pool => RevokedForGood pool.shared) oneSignedIn
        carriedOnThenRevoked ∧
      Along (sessionSystem plainSessions).step (KeepsOut plainSessions) oneSignedIn carriedOnThenRevoked) ∧
    (run (sessionSystem plainSessions).step oneSignedIn carriedOnThenRevoked).shared.returned =
      [{ username := "dispatch1", before := 2 }, { username := "dispatch1", before := 2 }] ∧
    (run (sessionSystem plainSessions).step oneSignedIn carriedOnThenRevoked).calls[3]? = some (.done (.failed
      ⟨403, "AUTH_ACCOUNT_SUSPENDED", "This account has been suspended. Contact an administrator."⟩)) :=
  ⟨revocation_final rfl rfl rfl (by decide +kernel), by decide +kernel, by rfl⟩

/-- A session outlives its revocation. -/
theorem revoked_across_exchange :
    ¬ ∀ (ext : SessionExternals) (pool : SessionPool) (events : List SessionEvent),
      pool.calls = [] → pool.shared.swept = [] → pool.shared.returned = [] →
      Throughout (sessionSystem ext).step (fun pool => RevokedForGood pool.shared) pool events ∧
        Along (sessionSystem ext).step (KeepsOut ext) pool events := by
  intro always
  have final := (always plainSessions oneSignedIn revokedAcrossExchange rfl rfl rfl).1.last
  -- The token that was being exchanged is of an older session, and still valid.
  have outlives : ∃ ending ∈ (run (sessionSystem plainSessions).step oneSignedIn revokedAcrossExchange).shared.returned,
      ∃ token ∈ (run (sessionSystem plainSessions).step oneSignedIn revokedAcrossExchange).shared.tokens,
        token.username = ending.username ∧ token.session < ending.before ∧ token.valid
          (run (sessionSystem plainSessions).step oneSignedIn revokedAcrossExchange).shared.now = true := by
    decide +kernel
  obtain ⟨ending, returned, token, listed, own, earlier, valid⟩ := outlives
  rw [final ending returned token listed own earlier] at valid
  cases valid

end Freight.Auth
