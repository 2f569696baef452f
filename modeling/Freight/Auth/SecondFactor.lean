import Freight.Auth.Endpoints
import Freight.Library.Run

/-! A party that knows a password gets no session past the second factor, unless a token strays. -/

namespace Freight.Auth

variable {ext : Externals} {store : AuthStore} {owner : Account}

/-- A request of the party's, what was stored when it came in, and what it was answered with. -/
structure Exchange where
  before : AuthStore
  request : Request
  response : Response

/-- What is stored, and what the party has been given. -/
structure World where
  store : AuthStore
  tokens : List Jwt := []
  refreshTokens : List Nat := []
  log : List Exchange := []

/-- What the party can do next. -/
inductive PartyEvent where
  | send (request : Request)
  | wait (elapsed : Nat)
  deriving DecidableEq

/-- The signed tokens that come with a response. -/
def Response.tokens : Response → List Jwt
  | .session token _ _ => [token]
  | .mfaRequired mfaSessionToken => [mfaSessionToken]
  | _ => []

/-- The refresh token that comes with a response. -/
def Response.refreshTokens : Response → List Nat
  | .session _ refreshToken _ => [refreshToken]
  | _ => []

/-- The party sends a request and keeps what it is given, or waits. -/
def World.step (ext : Externals) (world : World) : PartyEvent → World
  | .send request =>
    let answered := serve ext world.store request
    -- Whatever is answered stays in the hands of the party.
    { store := answered.1
      tokens := world.tokens ++ answered.2.tokens
      refreshTokens := world.refreshTokens ++ answered.2.refreshTokens
      log := world.log ++ [{ before := world.store, request := request, response := answered.2 }] }
  | .wait elapsed => { world with store := { world.store with now := world.store.now + elapsed } }

/-- The signed token that a request carries, wherever it carries one. -/
def Request.token : Request → Option Jwt
  | .verifyMfaLogin mfaSessionToken _ _ => mfaSessionToken
  | request => request.authorization

/-- The refresh token that a request carries. -/
def Request.refreshToken : Request → Option Nat
  | .refresh refreshToken | .logout refreshToken => refreshToken
  | _ => none

/-- The party presents no token but those it was given, or such as no one was ever given. -/
def Possible (world : World) : PartyEvent → Prop
  | .send request =>
    (∀ token ∈ request.token, token = .forged ∨ token ∈ world.tokens) ∧
      ∀ number ∈ request.refreshToken, number ∈ world.refreshTokens ∨
        ∀ row ∈ world.store.refreshTokens, row.number ≠ number
  | .wait _ => True

/-- A full session of an account. -/
def Response.SessionOf (username : String) : Response → Prop
  | .session token _ _ => ∃ claims ∈ token.claims, claims.username = username
  | _ => False

/-- The owner's second factor: a code of the secret they enrolled, or one of their unused recovery codes. -/
def Exchange.Presents (ext : Externals) (owner : Account) (exchange : Exchange) : Prop :=
  match exchange.request with
  | .verifyMfaLogin _ code recoveryCode =>
    -- A code of the authenticator, good at that moment.
    (∃ secret ∈ owner.totpSecret, verifyTotpCode ext secret code exchange.before.now = true) ∨
      ∃ supplied ∈ recoveryCode,
        ext.hashCode (canonicalizeRecoveryCode ext supplied) ∈ owner.totpRecoveryCodeHashes.getD [] ∧
        ∃ user ∈ exchange.before.users.find? owner.username,
          ext.hashCode (canonicalizeRecoveryCode ext supplied) ∈ user.totpRecoveryCodeHashes.getD []
  | _ => False

/-- Every full session of the owner's was answered to their second factor, or came after it. -/
def SecondFactor (ext : Externals) (owner : Account) (world : World) : Prop :=
  ∀ earlier exchange later, world.log = earlier ++ exchange :: later →
    exchange.response.SessionOf owner.username →
    ∃ presented ∈ earlier ++ [exchange], presented.Presents ext owner

/-- No token between the two steps of a login is let through by `authMiddleware`. -/
def OnlyVerifies (world : World) : PartyEvent → Prop
  | .send request => ∀ claims,
    authMiddleware world.store.now [] request.authorization = .ok claims → claims.purpose ≠ some .mfaPending
  | .wait _ => True

/-- No token between the two steps of a login is sent anywhere but to the second, before it has expired. -/
def NoneStrays (world : World) : PartyEvent → Prop
  | .send request => ∀ claims ∈ request.authorization.bind Jwt.claims,
    claims.purpose = some .mfaPending → claims.expiresAt ≤ world.store.now
  | .wait _ => True

/-- The owner has enabled the second factor, and the party has been given nothing yet. -/
structure Begins (owner : Account) (world : World) : Prop where
  enabled : owner.totpEnabledAt.isSome = true
  stored : world.store.users.find? owner.username = some owner
  numbered : ∀ row ∈ world.store.refreshTokens, row.number < world.store.serial
  tokens : world.tokens = []
  refreshTokens : world.refreshTokens = []
  log : world.log = []

/-- The owner's account is as it was, and nothing that was given out opens it. -/
structure Guarded (owner : Account) (store : AuthStore) (tokens : List Jwt) (refreshTokens : List Nat) :
    Prop where
  stored : store.users.find? owner.username = some owner
  numbered : ∀ row ∈ store.refreshTokens, row.number < store.serial
  pending : ∀ claims, .signed claims ∈ tokens → claims.username = owner.username →
    claims.purpose = some .mfaPending
  others : ∀ row ∈ store.refreshTokens, row.number ∈ refreshTokens → row.username ≠ owner.username

namespace Guarded

variable {tokens : List Jwt} {refreshTokens : List Nat} {username : String}

/-- Changing another account leaves the owner's as it was. -/
theorem update (guarded : Guarded owner store tokens refreshTokens) (other : username ≠ owner.username)
    (change : Account → Account) (keeps : ∀ user, (change user).username = user.username) :
    Guarded owner (store.updateUser username change keeps) tokens refreshTokens where
  -- The owner's row is looked up under another key.
  stored := by
    unfold AuthStore.updateUser
    simp only
    rw [Table.find?_update, if_neg other.symm]
    exact guarded.stored
  numbered := guarded.numbered
  pending := guarded.pending
  others := guarded.others

/-- Drawing another number makes no difference. -/
theorem drawn (guarded : Guarded owner store tokens refreshTokens) :
    Guarded owner { store with serial := store.serial + 1 } tokens refreshTokens where
  -- What was drawn below the old number is below the new one.
  stored := guarded.stored
  numbered := fun row listed => Nat.lt_succ_of_lt (guarded.numbered row listed)
  pending := guarded.pending
  others := guarded.others

/-- Neither does revoking what was issued. -/
theorem revoked (guarded : Guarded owner store tokens refreshTokens) (revoke : RefreshToken → RefreshToken)
    (number : ∀ row, (revoke row).number = row.number) (own : ∀ row, (revoke row).username = row.username) :
    Guarded owner { store with refreshTokens := store.refreshTokens.map revoke } tokens refreshTokens where
  stored := guarded.stored
  numbered := by
    intro row listed
    -- A revoked row keeps its number and its owner.
    obtain ⟨old, was, rfl⟩ := List.mem_map.mp listed
    exact number old ▸ guarded.numbered old was
  pending := guarded.pending
  others := by
    intro row listed given
    obtain ⟨old, was, rfl⟩ := List.mem_map.mp listed
    rw [own]
    exact guarded.others old was (number old ▸ given)

/-- Revoking one token. -/
theorem revoke (guarded : Guarded owner store tokens refreshTokens) (number : Nat) :
    Guarded owner (store.revokeRefreshToken number) tokens refreshTokens := by
  -- Nothing but the mark of a row changes.
  apply guarded.revoked
  · intro row
    split <;> rfl
  · intro row
    split <;> rfl

/-- Revoking all of an account's. -/
theorem revokeAll (guarded : Guarded owner store tokens refreshTokens) (username : String) :
    Guarded owner (store.revokeAllRefreshTokensForUser username) tokens refreshTokens := by
  -- Nothing but the marks of some rows changes.
  apply guarded.revoked
  · intro row
    split <;> rfl
  · intro row
    split <;> rfl

end Guarded

/-- An answer that leaves the owner's account as guarded as it was, and opens none of its sessions. -/
structure Harmless (owner : Account) (tokens : List Jwt) (refreshTokens : List Nat)
    (answered : AuthStore × Response) : Prop where
  guarded : Guarded owner answered.1 (tokens ++ answered.2.tokens)
    (refreshTokens ++ answered.2.refreshTokens)
  closed : ¬ answered.2.SessionOf owner.username

section Answers

variable {tokens : List Jwt} {refreshTokens : List Nat}

/-- An answer that brings no token. -/
theorem Guarded.harmless {response : Response} (guarded : Guarded owner store tokens refreshTokens)
    (bare : response.tokens = []) (bare' : response.refreshTokens = [])
    (closed : ¬ response.SessionOf owner.username) :
    Harmless owner tokens refreshTokens (store, response) where
  -- With nothing brought, the party knows what it knew.
  guarded := by
    rw [bare, bare', List.append_nil, List.append_nil]
    exact guarded
  closed := closed

/-- A session of another account. -/
theorem Guarded.session {user : Account} (guarded : Guarded owner store tokens refreshTokens)
    (other : user.username ≠ owner.username) :
    Harmless owner tokens refreshTokens (issueSessionTokens store user) where
  guarded := {
    stored := guarded.stored
    numbered := by
      intro row listed
      -- The new refresh token takes the next number.
      rcases List.mem_append.mp listed with old | new
      · exact Nat.lt_succ_of_lt (guarded.numbered row old)
      · rw [List.mem_singleton.mp new]
        exact Nat.lt_succ_self _
    pending := by
      intro claims listed own
      rcases List.mem_append.mp listed with old | new
      · exact guarded.pending claims old own
      · cases List.mem_singleton.mp new
        -- The access token is of the other account, so nothing of the owner's is given out.
        exact absurd own other
    others := by
      intro row listed given
      rcases List.mem_append.mp listed with old | new
      · -- What was issued before has a number that was given out before, or never.
        rcases List.mem_append.mp given with before | now
        · exact guarded.others row old before
        · exact absurd (List.mem_singleton.mp now) (Nat.ne_of_lt (guarded.numbered row old))
      · rw [List.mem_singleton.mp new]
        exact other }
  closed := by
    rintro ⟨claims, signed, own⟩
    cases signed
    exact other own

/-- A token that is for the second step of a login. -/
theorem Guarded.mfaRequired (guarded : Guarded owner store tokens refreshTokens) (now : Nat)
    (username : String) :
    Harmless owner tokens refreshTokens (store, .mfaRequired (signMfaSessionToken now username)) where
  -- The one token it brings is pending, and no refresh token comes with it.
  guarded := {
    stored := guarded.stored
    numbered := guarded.numbered
    pending := by
      intro claims listed own
      rcases List.mem_append.mp listed with old | new
      · exact guarded.pending claims old own
      · -- The token is for the second step alone.
        cases List.mem_singleton.mp new
        rfl
    others := by
      intro row listed given
      exact guarded.others row listed (by simpa [Response.refreshTokens] using given) }
  closed := id

/-- What `authMiddleware` lets through was signed, and has not expired. -/
theorem authMiddleware_ok {now : Nat} {token : Option Jwt} {claims : Claims}
    (passed : authMiddleware now [] token = .ok claims) :
    token = some (.signed claims) ∧ now < claims.expiresAt := by
  -- With no role asked for, the signature and the expiry are all it checks.
  simp only [authMiddleware, bind_ok, demand_ok, require_ok, pure_ok] at passed
  obtain ⟨jwt, rfl, found, verified, -, -, rfl⟩ := passed
  obtain ⟨signed, valid⟩ := Option.filter_eq_some_iff.mp verified
  cases jwt with
  | forged => cases signed
  | signed other =>
    cases signed
    exact ⟨rfl, of_decide_eq_true valid⟩

/-- Past `authMiddleware`, a request that strays not comes from another account. -/
theorem Guarded.stranger {world : World} {request : Request} {claims : Claims}
    (guarded : Guarded owner world.store world.tokens world.refreshTokens)
    (possible : Possible world (.send request)) (none_strays : NoneStrays world (.send request))
    (carried : request.token = request.authorization)
    (passed : authMiddleware world.store.now [] request.authorization = .ok claims) :
    claims.username ≠ owner.username := by
  intro own
  obtain ⟨sent, valid⟩ := authMiddleware_ok passed
  -- All that the party has of the owner's is for the second step of a login, and does not stray.
  have given := (possible.1 _ (carried.trans sent)).resolve_left (by simp)
  have pending := guarded.pending claims given own
  refine absurd (none_strays claims ?_ pending) (Nat.not_le.mpr valid)
  rw [sent]
  rfl

end Answers

section Steps

variable {world : World} (guarded : Guarded owner world.store world.tokens world.refreshTokens)

include guarded

/-- A login as the owner stops before the second factor; any other is none of theirs. -/
theorem login_harmless (enabled : owner.totpEnabledAt.isSome = true) {username password : Option String}
    {answered : AuthStore × Response} (done : login ext world.store username password = .ok answered) :
    Harmless owner world.tokens world.refreshTokens answered := by
  unfold login at done
  simp only [bind_ok, demand_ok, require_ok, refuse_ok] at done
  obtain ⟨⟨name, word⟩, -, user, found, hash, -, -, -, -, -, done⟩ := done
  have named := (Table.find?_eq_some.mp found).2
  split at done
  · cases done
    exact guarded.mfaRequired _ _
  · rename_i single
    cases done
    refine guarded.session fun own => ?_
    -- The owner's account has a second factor, and is the only one of their name.
    rw [← named, own, guarded.stored] at found
    cases found
    exact single enabled

/-- A second step as the owner presents their second factor; any other is none of theirs. -/
theorem verifyMfaLogin_harmless {mfaSessionToken : Option Jwt} {code recoveryCode : Option String}
    {answered : AuthStore × Response}
    (done : verifyMfaLogin ext world.store mfaSessionToken code recoveryCode = .ok answered) :
    Exchange.Presents ext owner
        ⟨world.store, .verifyMfaLogin mfaSessionToken code recoveryCode, answered.2⟩ ∨
      Harmless owner world.tokens world.refreshTokens answered := by
  unfold verifyMfaLogin at done
  simp only [bind_ok, demand_ok] at done
  obtain ⟨session, -, user, found, secret, holds, done⟩ := done
  have named := (Table.find?_eq_some.mp found).2
  -- The token names the owner, or it names another account.
  by_cases own : user.username = owner.username
  · have the_one : user = owner := by
      rw [← named, own, guarded.stored] at found
      exact (Option.some.inj found).symm
    subst the_one
    left
    cases supplied : recoveryCode.filter fun recoveryCode => recoveryCode ≠ "" with
    | some supplied' =>
      simp only [supplied, bind_ok, demand_ok] at done
      obtain ⟨remaining, consumed, -⟩ := done
      have given := (Option.filter_eq_some_iff.mp supplied).1
      -- A recovery code is accepted while its hash is stored, and those stored are the owner's.
      have unused : ext.hashCode (canonicalizeRecoveryCode ext supplied') ∈
          user.totpRecoveryCodeHashes.getD [] := by
        unfold consumeRecoveryCode at consumed
        cases stored : user.totpRecoveryCodeHashes with
        | none =>
          rw [stored] at consumed
          cases consumed
        | some hashes =>
          rw [stored] at consumed
          simp only [Option.ite_none_right_eq_some] at consumed
          simpa using consumed.1
      exact .inr ⟨supplied', given, unused, user, guarded.stored, unused⟩
    -- With no recovery code it is the authenticator's code that was valid.
    | none =>
      simp only [supplied, bind_ok, require_ok] at done
      obtain ⟨-, -, -, valid, -⟩ := done
      exact .inl ⟨secret, holds, valid⟩
  -- What is written is the other account's row.
  · right
    split at done
    · simp only [bind_ok, demand_ok, pure_ok] at done
      obtain ⟨remaining, -, rfl⟩ := done
      exact (guarded.update own _ _).session own
    · simp only [bind_ok, require_ok, pure_ok] at done
      obtain ⟨-, -, -, -, rfl⟩ := done
      exact guarded.session own

/-- A refresh is of a token that was given out, and so none of the owner's. -/
theorem refresh_harmless {refreshToken : Option Nat} {answered : AuthStore × Response}
    (possible : Possible world (.send (.refresh refreshToken)))
    (done : refresh world.store refreshToken = .ok answered) :
    Harmless owner world.tokens world.refreshTokens answered := by
  unfold refresh at done
  simp only [bind_ok, demand_ok, pure_ok] at done
  obtain ⟨number, rfl, username, valid, user, found, rfl⟩ := done
  have named := (Table.find?_eq_some.mp found).2
  apply (guarded.revoke number).session
  unfold AuthStore.validateRefreshToken at valid
  obtain ⟨row, held, rfl⟩ := Option.map_eq_some_iff.mp valid
  have listed := List.mem_of_find?_eq_some held
  -- The row that validates has the number that was presented.
  have its : row.number = number := by
    have passes := List.find?_some held
    simp only [Bool.and_eq_true, decide_eq_true_eq] at passes
    exact passes.1.1
  rw [named]
  -- The number was given out, to another account, or no row has it.
  rcases possible.2 number rfl with given | unknown
  · exact guarded.others row listed (its ▸ given)
  · exact absurd its (unknown row listed)

/-- A request that `authMiddleware` has let through works on another account. -/
theorem behind_harmless {claims : Claims} (other : claims.username ≠ owner.username)
    {answered : AuthStore × Response}
    (done : me world.store claims = .ok answered ∨
      (∃ current new, changePassword ext world.store claims current new = .ok answered) ∨
      enrollMfa ext world.store claims = .ok answered ∨
      (∃ code, confirmMfa ext world.store claims code = .ok answered) ∨
      ∃ password, disableMfa ext world.store claims password = .ok answered) :
    Harmless owner world.tokens world.refreshTokens answered := by
  -- Each of the five writes at most the account of who asks.
  rcases done with done | ⟨current, new, done⟩ | done | ⟨code, done⟩ | ⟨password, done⟩
  · simp only [me, bind_ok, demand_ok, pure_ok] at done
    obtain ⟨user, -, rfl⟩ := done
    exact guarded.harmless rfl rfl id
  · simp only [changePassword, bind_ok, demand_ok, require_ok, pure_ok] at done
    obtain ⟨-, -, -, -, -, -, -, -, -, -, rfl⟩ := done
    exact (((guarded.update other _ _).revokeAll _).drawn).harmless rfl rfl id
  · simp only [enrollMfa, bind_ok, require_ok, pure_ok] at done
    obtain ⟨-, -, -, -, rfl⟩ := done
    exact ((guarded.update other _ _).drawn).harmless rfl rfl id
  · simp only [confirmMfa, bind_ok, demand_ok, require_ok, pure_ok] at done
    obtain ⟨-, -, -, -, -, -, rfl⟩ := done
    exact ((guarded.update other _ _).drawn).harmless rfl rfl id
  · simp only [disableMfa, bind_ok, demand_ok, require_ok, pure_ok] at done
    obtain ⟨-, -, -, -, -, -, rfl⟩ := done
    exact (guarded.update other _ _).harmless rfl rfl id

/-- While nothing strays, a request presents the owner's second factor or is harmless. -/
theorem serve_harmless (enabled : owner.totpEnabledAt.isSome = true) {request : Request}
    (possible : Possible world (.send request)) (none_strays : NoneStrays world (.send request)) :
    Exchange.Presents ext owner ⟨world.store, request, (serve ext world.store request).2⟩ ∨
      Harmless owner world.tokens world.refreshTokens (serve ext world.store request) := by
  unfold serve
  cases done : route ext world.store request with
  | error failure => exact .inr (guarded.harmless rfl rfl id)
  | ok answered =>
    simp only
    -- Who gets through `authMiddleware` presents a token of another account.
    have behind : ∀ claims, request.token = request.authorization →
        authMiddleware world.store.now [] request.authorization = .ok claims →
        claims.username ≠ owner.username := fun claims =>
      guarded.stranger possible none_strays
    cases request with
    | login username password => exact .inr (login_harmless guarded enabled done)
    | verifyMfaLogin mfaSessionToken code recoveryCode => exact verifyMfaLogin_harmless guarded done
    | refresh refreshToken => exact .inr (refresh_harmless guarded possible done)
    -- To revoke a token gives nobody anything.
    | logout refreshToken =>
      right
      cases done
      unfold logout
      split
      · exact (guarded.revoke _).harmless rfl rfl id
      · exact guarded.harmless rfl rfl id
    | me token =>
      simp only [route, bind_ok] at done
      obtain ⟨claims, passed, done⟩ := done
      exact .inr (@behind_harmless ext _ _ guarded _ (behind claims rfl passed) _ (.inl done))
    | changePassword token current new =>
      simp only [route, bind_ok] at done
      obtain ⟨claims, passed, done⟩ := done
      exact .inr (behind_harmless guarded (behind claims rfl passed) (.inr (.inl ⟨_, _, done⟩)))
    | enrollMfa token =>
      simp only [route, bind_ok] at done
      obtain ⟨claims, passed, done⟩ := done
      exact .inr (behind_harmless guarded (behind claims rfl passed) (.inr (.inr (.inl done))))
    | confirmMfa token code =>
      simp only [route, bind_ok] at done
      obtain ⟨claims, passed, done⟩ := done
      exact .inr (behind_harmless guarded (behind claims rfl passed) (.inr (.inr (.inr (.inl ⟨_, done⟩)))))
    | disableMfa token password =>
      simp only [route, bind_ok] at done
      obtain ⟨claims, passed, done⟩ := done
      exact .inr (behind_harmless guarded (behind claims rfl passed) (.inr (.inr (.inr (.inr ⟨_, done⟩)))))

end Steps

/-- What holds of the party's world while nothing strays. -/
structure Watched (ext : Externals) (owner : Account) (world : World) : Prop where
  factor : SecondFactor ext owner world
  guarded : (∃ presented ∈ world.log, presented.Presents ext owner) ∨
    Guarded owner world.store world.tokens world.refreshTokens

/-- Whatever the party does, it gets no session past the second factor while nothing strays. -/
theorem Watched.step (enabled : owner.totpEnabledAt.isSome = true) {world : World}
    (watched : Watched ext owner world) {event : PartyEvent} (possible : Possible world event)
    (none_strays : NoneStrays world event) : Watched ext owner (world.step ext event) := by
  cases event with
  | wait elapsed =>
    refine ⟨watched.factor, watched.guarded.imp_right fun guarded => ?_⟩
    exact ⟨guarded.stored, guarded.numbered, guarded.pending, guarded.others⟩
  | send request =>
    -- Either the second factor has been presented by now, or the answer is harmless.
    have next : (∃ presented ∈ (world.step ext (.send request)).log, presented.Presents ext owner) ∨
        Harmless owner world.tokens world.refreshTokens (serve ext world.store request) := by
      rcases watched.guarded with ⟨presented, listed, presents⟩ | guarded
      · exact .inl ⟨presented, List.mem_append_left _ listed, presents⟩
      · refine (serve_harmless guarded enabled possible none_strays).imp_left fun presents => ?_
        exact ⟨_, List.mem_append_right _ List.mem_cons_self, presents⟩
    refine ⟨?_, next.imp_right Harmless.guarded⟩
    intro earlier exchange later logged session
    rcases List.eq_nil_or_concat later with rfl | ⟨between, last, rfl⟩
    · -- The exchange is the new one.
      obtain ⟨same, newest⟩ := List.append_inj' logged rfl
      rcases next with presented | harmless
      · rw [logged] at presented
        exact presented
      · cases newest
        exact absurd session harmless.closed
    · rw [List.concat_eq_append, ← List.cons_append, ← List.append_assoc] at logged
      exact watched.factor earlier exchange between (List.append_inj' logged rfl).1 session

/-- No token between two steps is let through exactly when none is sent astray. -/
theorem onlyVerifies_iff (world : World) (event : PartyEvent) :
    OnlyVerifies world event ↔ NoneStrays world event := by
  cases event with
  | wait => exact Iff.rfl
  | send request =>
    constructor
    · intro only claims carried pending
      by_contra valid
      refine only claims ?_ pending
      -- Nothing but an expired token is held up where no role is asked for.
      obtain ⟨token, sent, signed⟩ := Option.bind_eq_some_iff.mp carried
      simp only [authMiddleware, bind_ok, demand_ok, require_ok, pure_ok, sent]
      refine ⟨token, rfl, claims, ?_, (), rfl, rfl⟩
      exact Option.filter_eq_some_iff.mpr ⟨signed, decide_eq_true (Nat.not_le.mp valid)⟩
    · intro none_strays claims passed pending
      obtain ⟨sent, valid⟩ := authMiddleware_ok passed
      refine absurd (none_strays claims ?_ pending) (Nat.not_le.mpr valid)
      rw [sent]
      rfl

/-- A party without the second factor gets no session exactly in the runs in which no token strays. -/
theorem secondFactor_iff (ext : Externals) (owner : Account) (world : World) (events : List PartyEvent)
    (begins : Begins owner world) (possible : Along (World.step ext) Possible world events) :
    (Throughout (World.step ext) (SecondFactor ext owner) world events ∧
      Along (World.step ext) OnlyVerifies world events) ↔
      Along (World.step ext) NoneStrays world events := by
  -- At the start nothing has been given out, so there is nothing to guard yet.
  have initial : Watched ext owner world := by
    refine ⟨fun earlier exchange later logged => ?_, .inr ⟨begins.stored, begins.numbered, ?_, ?_⟩⟩
    · rw [begins.log] at logged
      exact absurd logged (by simp)
    · rw [begins.tokens]
      exact fun _ listed => absurd listed List.not_mem_nil
    · rw [begins.refreshTokens]
      exact fun _ _ listed => absurd listed List.not_mem_nil
  constructor
  · exact fun holds => holds.2.mono fun world event => (onlyVerifies_iff world event).mp
  · intro none_strays
    have always : Throughout (World.step ext) (Watched ext owner) world events :=
      (possible.and none_strays).throughout
        (fun world event watched admitted => watched.step begins.enabled admitted.1 admitted.2) initial
    exact ⟨always.mono fun _ watched => watched.factor,
      none_strays.mono fun world event => (onlyVerifies_iff world event).mpr⟩

instance (username : String) : (response : Response) → Decidable (response.SessionOf username)
  | .session token _ _ => inferInstanceAs (Decidable (∃ claims ∈ token.claims, _))
  | .mfaRequired _ | .profile _ _ _ | .enrolled _ | .recoveryCodes _ | .done _ | .failed _ => .isFalse id

instance (world : World) : (event : PartyEvent) → Decidable (Possible world event)
  | .send request => inferInstanceAs (Decidable ((∀ token ∈ request.token, _) ∧ ∀ number ∈ _, _))
  | .wait _ => .isTrue trivial

/-- An account with a second factor. -/
def alice : Account where
  username := "alice"
  passwordHash := some "bcrypt of correct horse"
  role := .dispatcher
  totpSecret := some "JBSWY3DPEHPK3PXP"
  totpEnabledAt := some 0
  totpRecoveryCodeHashes := some ["sha256 of ABCD2345"]

/-- Stand-ins for bcrypt, otplib and the rest that tell the same passwords, codes and secrets apart. -/
def standIns : Externals where
  compare := fun password hash => hash = "bcrypt of " ++ password
  hash := fun _ password => "bcrypt of " ++ password
  generateSecret := fun _ => "GEZDGNBVGY3TQOJQ"
  verify := fun secret token _ =>
    secret = "JBSWY3DPEHPK3PXP" && token = "282760" || secret = "GEZDGNBVGY3TQOJQ" && token = "755224"
  recoveryCodes := fun _ => ["WXYZ6789"]
  hashCode := fun code => "sha256 of " ++ code
  toUpperCase := String.toUpper

/-- What is stored before anyone knocks. -/
def atFirst : World where
  store := { users := ⟨[alice], List.nodup_singleton _⟩ }

/-- The token that a login with the password alone is answered with. -/
def pendingToken : Jwt := signMfaSessionToken 0 "alice"

/-- A login with the password alone. -/
def withPassword : PartyEvent := .send (.login (some "alice") (some "correct horse"))

/-- Nothing was given out yet. -/
theorem begins_atFirst : Begins alice atFirst :=
  ⟨rfl, by decide +kernel, fun _ listed => absurd listed List.not_mem_nil, rfl, rfl, rfl⟩

/-- With a code of the owner's, the party gets in, and no token has strayed. -/
theorem secondFactor_withCode :
    (Throughout (World.step standIns) (SecondFactor standIns alice) atFirst
        [withPassword, .send (.verifyMfaLogin (some pendingToken) (some "282760") none)] ∧
      Along (World.step standIns) OnlyVerifies atFirst
        [withPassword, .send (.verifyMfaLogin (some pendingToken) (some "282760") none)]) ↔
      Along (World.step standIns) NoneStrays atFirst
        [withPassword, .send (.verifyMfaLogin (some pendingToken) (some "282760") none)] :=
  secondFactor_iff standIns alice atFirst _ begins_atFirst (by decide +kernel)

/-- The password and the token it earns: enough to turn the second factor off, and to log in again. -/
def turnedOff : List PartyEvent :=
  [withPassword, .send (.disableMfa (some pendingToken) (some "correct horse"))]

/-- With the password alone, the party gets a session. -/
theorem session_with_password :
    Begins alice atFirst ∧ Along (World.step standIns) Possible atFirst (turnedOff ++ [withPassword]) ∧
    ¬ Throughout (World.step standIns) (SecondFactor standIns alice) atFirst
      (turnedOff ++ [withPassword]) := by
  refine ⟨begins_atFirst, by decide +kernel, fun throughout => ?_⟩
  have factor := throughout.last
  rw [run_append] at factor
  obtain ⟨presented, listed, presents⟩ := factor (run (World.step standIns) atFirst turnedOff).log _ [] rfl
    (by decide +kernel)
  -- None of the requests is the second step of a login.
  have requests : ∀ exchange ∈ (run (World.step standIns) atFirst (turnedOff ++ [withPassword])).log,
      exchange.request = .login (some "alice") (some "correct horse") ∨
        exchange.request = .disableMfa (some pendingToken) (some "correct horse") := by
    decide +kernel
  rw [run_append] at requests
  unfold Exchange.Presents at presents
  rcases requests presented listed with same | same
  · rw [same] at presents
    exact presents
  · rw [same] at presents
    exact presents

end Freight.Auth
