import Freight.Library.Pool

/-! The access tokens the mobile-money calls carry: fetched, cached for each product, and refreshed a minute early. -/

namespace Freight.Payment.Momo

/-- Two products, each with a token endpoint of its own. -/
inductive Product where
  | collection
  | disbursement
  deriving DecidableEq

/-- A token, as its issuer knows it. -/
structure AccessToken where
  product : Product
  /-- Milliseconds since the epoch. -/
  issuedAt : Nat
  /-- In seconds. -/
  lifetime : Nat
  deriving DecidableEq

/-- The moment the issuer stops accepting the token. -/
def AccessToken.expires (token : AccessToken) : Nat := token.issuedAt + token.lifetime * 1000

/-- An entry of `tokenCache`. -/
structure CachedToken where
  token : AccessToken
  expiresAt : Nat

/-- What the calls of one process share. -/
structure MomoState where
  now : Nat := 0
  tokenCache : Product → Option CachedToken := fun _ => none

/-- `MomoError`, without its message. -/
structure MomoError where
  status : Option Nat := none
  code : Option String := none
  retryable : Bool := false
  deriving DecidableEq

/-- A call to one of the products, at the exchange it has reached. -/
inductive MomoCall where
  | starting (product : Product)
  /-- The token endpoint has been asked. -/
  | asking (product : Product) (since : Nat)
  /-- The request has gone out with a token. -/
  | sent (product : Product) (token : AccessToken) (since : Nat)
  | responded (status : Nat)
  | failed (error : MomoError)
  | stopped

/-- What comes back from the other side. -/
inductive MomoAnswer where
  /-- With `expires_in`, where the body has it. -/
  | granted (token : AccessToken) (expiresIn : Option Nat)
  | status (code : Nat)
  /-- Nothing in time, or no connection. -/
  | unreachable

/-- What a call writes to the cache. -/
inductive MomoStatement where
  | unseen
  | remember (product : Product) (cached : CachedToken)

/-- What that does. -/
def MomoStatement.execute (statement : MomoStatement) (state : MomoState) : MomoState :=
  match statement with
  | .unseen => state
  | .remember product cached => { state with tokenCache := Function.update state.tokenCache product (some cached) }

/-- How long before a token expires it is no longer taken from the cache: a minute. -/
def refreshMargin : Nat := 60000

/-- `Number(body.expires_in || 3600)`. -/
def secondsLeft (expiresIn : Option Nat) : Nat :=
  match expiresIn with
  | none | some 0 => 3600
  | some seconds => seconds

/-- `accessToken`, up to its first answer: a token from the cache, or a question to the token endpoint. -/
def accessToken (configured : Product → Bool) (state : MomoState) (product : Product) : MomoCall :=
  match (state.tokenCache product).filter fun cached => state.now + refreshMargin < cached.expiresAt with
  | some cached => .sent product cached.token state.now
  | none =>
    if configured product then .asking product state.now
    else .failed { code := some "NOT_CONFIGURED" }

/-- The error of a token endpoint that refuses: bad credentials stay bad. -/
def tokenRefused (status : Nat) : MomoError where
  status := some status
  retryable := status ≠ 401

/-- The error of `fetchWithTimeout`. -/
def unreachable : MomoError where
  code := some "UNREACHABLE"
  retryable := true

/-- Where a call stands after its next answer, and what it writes. -/
def MomoCall.next (configured : Product → Bool) (state : MomoState) (answer : MomoAnswer) :
    MomoCall → MomoStatement × MomoCall
  | .starting product => (.unseen, accessToken configured state product)
  | .asking product _ =>
    match answer with
    -- The token is remembered, and goes out with the request.
    | .granted token expiresIn =>
      (.remember product { token := token, expiresAt := state.now + secondsLeft expiresIn * 1000 },
        .sent product token state.now)
    | .status code => (.unseen, .failed (tokenRefused code))
    | .unreachable => (.unseen, .failed unreachable)
  | .sent product token since =>
    match answer with
    -- A request that is sent is not answered with a token.
    | .granted .. => (.unseen, .sent product token since)
    | .status code => (.unseen, .responded code)
    | .unreachable => (.unseen, .failed unreachable)
  | done => (.unseen, done)

/-- The calls of one process. Outside them, time passes. -/
def momoSystem (configured : Product → Bool) :
    CallSystem MomoState MomoStatement Product MomoCall MomoAnswer Nat Unit where
  start := .starting
  next := MomoCall.next configured
  execute := MomoStatement.execute
  holds _ := []
  needs _ := []
  outside elapsed state := { state with now := state.now + elapsed }
  outsideNeeds _ := []
  stopped := .stopped

/-- When the exchange a call waits for began. -/
def MomoCall.since : MomoCall → Option Nat
  | .asking _ since | .sent _ _ since => some since
  | _ => none

/-- What the issuer grants a call that has been waiting since some moment. -/
structure Grants (patience now since : Nat) (product : Product) (token : AccessToken) (expiresIn : Option Nat) :
    Prop where
  own : token.product = product
  /-- The token is made while the call waits for it. -/
  later : since ≤ token.issuedAt
  by_now : token.issuedAt ≤ now
  /-- `expires_in` is the lifetime of the token. -/
  honest : secondsLeft expiresIn = token.lifetime
  lasting : 2 * patience < token.lifetime * 1000

/-- The condition on an event: no exchange outlasts the callers' patience, and tokens are granted as documented. -/
def Timely (patience : Nat) (pool : Pool MomoState MomoCall) : PoolEvent Product MomoAnswer Nat → Prop
  | .outside elapsed => ∀ call ∈ pool.calls, ∀ since ∈ call.since, pool.shared.now + elapsed ≤ since + patience
  | .run index (.granted token expiresIn) => ∀ product since, pool.calls[index]? = some (.asking product since) →
    Grants patience pool.shared.now since product token expiresIn
  | _ => True

/-- The token a request carries is one of its product, and has not expired. -/
def MomoCall.Accepted (now : Nat) : MomoCall → Prop
  | .sent product token _ => token.product = product ∧ now < token.expires
  | _ => True

/-- A call will be through before its token expires. -/
def MomoCall.Sound (patience now : Nat) : MomoCall → Prop
  | .asking _ since => since ≤ now ∧ now ≤ since + patience
  | .sent product token since =>
    token.product = product ∧ now ≤ since + patience ∧ since + patience < token.expires
  | _ => True

/-- A cached token expires at most one exchange before the moment that is noted for it. -/
def CachedToken.Sound (patience : Nat) (product : Product) (cached : CachedToken) : Prop :=
  cached.token.product = product ∧ cached.expiresAt ≤ cached.token.expires + patience

/-- What every interleaving keeps. -/
structure Fresh (patience : Nat) (state : MomoState) (calls : List MomoCall) : Prop where
  calls : ∀ call ∈ calls, call.Sound patience state.now
  cached : ∀ product cached, state.tokenCache product = some cached → cached.Sound patience product

section Steps

variable {patience : Nat} {configured : Product → Bool} {state : MomoState}

/-- A token taken from the cache has more than an exchange to go. -/
theorem accessToken_sound (brief : 2 * patience ≤ refreshMargin)
    (cached : ∀ product cached, state.tokenCache product = some cached → cached.Sound patience product)
    (product : Product) : (accessToken configured state product).Sound patience state.now := by
  -- Cached, it has the margin to go, twice the patience or more; else it has yet to be asked for.
  unfold accessToken
  split
  · rename_i entry found
    obtain ⟨there, within⟩ := Option.filter_eq_some_iff.mp found
    obtain ⟨own, noted⟩ := cached product entry there
    have within : state.now + refreshMargin < entry.expiresAt := by simpa using within
    exact ⟨own, by omega, by omega⟩
  · split
    · exact ⟨Nat.le_refl _, by omega⟩
    · trivial

/-- A token that has just been granted has more than an exchange to go, and is cached with the time it has. -/
theorem granted_sound {since : Nat} {product : Product} {token : AccessToken} {expiresIn : Option Nat}
    (waited : state.now ≤ since + patience)
    (grants : Grants patience state.now since product token expiresIn) :
    (MomoCall.sent product token state.now).Sound patience state.now ∧
      CachedToken.Sound patience product
        { token := token, expiresAt := state.now + secondsLeft expiresIn * 1000 } := by
  have later := grants.later
  have lasting := grants.lasting
  have expires : token.expires = token.issuedAt + token.lifetime * 1000 := rfl
  refine ⟨⟨grants.own, by omega, by omega⟩, grants.own, ?_⟩
  -- The time noted runs from the answer, the lifetime from somewhat before it.
  show state.now + secondsLeft expiresIn * 1000 ≤ token.expires + patience
  rw [grants.honest]
  omega

end Steps

/-- Every timely event keeps tokens fresh. -/
theorem fresh_keeps (configured : Product → Bool) {patience : Nat} (brief : 2 * patience ≤ refreshMargin) :
    (momoSystem configured).Keeps (Fresh patience) (Timely patience) where
  perm same fresh := ⟨fun call member => fresh.calls call (same.mem_iff.mpr member), fresh.cached⟩
  moves := by
    intro pool index answer call others taken fresh timely
    obtain ⟨own, rest⟩ := List.forall_mem_cons.mp fresh.calls
    -- Unless a token is granted, nothing is written.
    have quiet : ∀ next : MomoCall, next.Sound patience pool.shared.now →
        Fresh patience (MomoStatement.unseen.execute pool.shared) (next :: others) := fun next sound =>
      ⟨List.forall_mem_cons.mpr ⟨sound, rest⟩, fresh.cached⟩
    cases call with
    | starting product => exact quiet _ (accessToken_sound brief fresh.cached product)
    | asking product since =>
      cases answer with
      | granted token expiresIn =>
        obtain ⟨sound, noted⟩ := granted_sound own.2 (timely product since taken.found)
        refine ⟨List.forall_mem_cons.mpr ⟨sound, rest⟩, fun other cached found => ?_⟩
        replace found : Function.update pool.shared.tokenCache product _ other = some cached := found
        by_cases same : other = product
        · subst same
          rw [Function.update_self] at found
          obtain rfl := Option.some.inj found
          exact noted
        · rw [Function.update_of_ne same] at found
          exact fresh.cached other cached found
      | status code => exact quiet _ trivial
      | unreachable => exact quiet _ trivial
    | sent product token since =>
      cases answer with
      | granted => exact quiet _ own
      | status code => exact quiet _ trivial
      | unreachable => exact quiet _ trivial
    | responded | failed | stopped => exact quiet _ trivial
  arrives := fun fresh _ => ⟨List.forall_mem_cons.mpr ⟨trivial, fresh.calls⟩, fresh.cached⟩
  stops := fun _ fresh _ =>
    ⟨List.forall_mem_cons.mpr ⟨trivial, (List.forall_mem_cons.mp fresh.calls).2⟩, fresh.cached⟩
  happens := by
    intro pool elapsed fresh timely _
    refine ⟨fun call member => ?_, fresh.cached⟩
    have sound := fresh.calls call member
    have within := timely call member
    -- Time passes within the patience of every call that waits.
    show call.Sound patience (pool.shared.now + elapsed)
    cases call with
    | asking product since =>
      have began : since ≤ pool.shared.now := sound.1
      exact ⟨by omega, within since rfl⟩
    | sent product token since => exact ⟨sound.1, within since rfl, sound.2.2⟩
    | starting | responded | failed | stopped => trivial

/--
While no exchange takes longer than half the margin, every request under way carries a token of its product that
has not expired.
-/
theorem tokens_accepted (configured : Product → Bool) (patience : Nat) (brief : 2 * patience ≤ refreshMargin)
    (events : List (PoolEvent Product MomoAnswer Nat))
    (timely : Along (momoSystem configured).step (Timely patience) ⟨{}, []⟩ events) :
    Throughout (momoSystem configured).step
      (fun pool => ∀ call ∈ pool.calls, call.Accepted pool.shared.now) ⟨{}, []⟩ events := by
  -- To begin with nothing is cached and nothing under way.
  have initial : Fresh patience {} [] := by
    refine ⟨fun call member => ?_, fun product cached found => ?_⟩
    · cases member
    · cases found
  have throughout := @CallSystem.Keeps.throughout _ _ _ _ _ _ _ _ _ _ _ (fresh_keeps configured brief)
    ⟨{}, []⟩ events initial timely
  refine throughout.mono fun pool fresh call member => ?_
  have sound := fresh.calls call member
  cases call with
  | sent product token since => exact ⟨sound.1, Nat.lt_of_le_of_lt sound.2.1 sound.2.2⟩
  | starting | asking | responded | failed | stopped => trivial

/-- An hour's token, granted two seconds after it was asked for. -/
def hourly : AccessToken where
  product := .collection
  issuedAt := 1000
  lifetime := 3600

/-- A second call finds it in the cache when it has a little more than a minute to go. -/
theorem tokens_accepted_cached :
    Throughout (momoSystem fun _ => true).step
      (fun pool => ∀ call ∈ pool.calls, call.Accepted pool.shared.now) ⟨{}, []⟩
      [.call .collection, .run 0 (.status 0), .outside 2000, .run 0 (.granted hourly none), .run 0 (.status 202),
        .outside 3539999, .call .collection, .run 1 (.status 0), .outside 30000] := by
  refine tokens_accepted _ 30000 (by decide) _
    ⟨trivial, trivial, ?_, ?_, trivial, ?_, trivial, trivial, ?_, trivial⟩
  · intro call member since began
    -- call = .asking: The first exchange is answered within two seconds.
    obtain rfl : call = .asking .collection 0 := List.mem_singleton.mp member
    cases began
    decide
  · intro product since found
    cases found
    exact ⟨rfl, by decide, by decide, rfl, by decide⟩
  · intro call member since began
    obtain rfl : call = .responded 202 := List.mem_singleton.mp member
    cases began
  · intro call member since began
    -- call ∈: The call that finds it cached sends it with a little over a minute left on it.
    have member : call ∈ [MomoCall.responded 202, .sent .collection hourly 3541999] := member
    rcases List.mem_pair.mp member with rfl | rfl
    · cases began
    · cases began
      decide

end Freight.Payment.Momo
