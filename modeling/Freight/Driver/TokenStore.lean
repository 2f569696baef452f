import Freight.Library.EventLoop

/-! The token store of the driver app: `setTokens`, `clearTokens`, `refreshAccessToken` and `signOut`. -/

namespace Freight.Driver.Session

/-- A value of a session's, with the sign-in it goes back to. -/
structure Stamped where
  value : String
  session : Nat
  deriving DecidableEq

/-- The keys of the secure store. -/
inductive StoreKey where
  | token
  | refreshToken
  | role
  | username
  deriving DecidableEq

/-- `TokenSet`. -/
structure TokenSet where
  token : Option Stamped := none
  refreshToken : Option Stamped := none
  role : Option Stamped := none
  username : Option Stamped := none
  deriving DecidableEq

/-- What is held under a key. -/
def TokenSet.get (set : TokenSet) : StoreKey → Option Stamped
  | .token => set.token
  | .refreshToken => set.refreshToken
  | .role => set.role
  | .username => set.username

/-- What `setTokens` is given: all of it from one sign-in. -/
structure SignIn where
  session : Nat
  token : String
  refreshToken : String
  role : String
  username : String
  deriving DecidableEq

/-- It, as the cache holds it. -/
def SignIn.tokens (signIn : SignIn) : TokenSet where
  token := some ⟨signIn.token, signIn.session⟩
  refreshToken := some ⟨signIn.refreshToken, signIn.session⟩
  role := some ⟨signIn.role, signIn.session⟩
  username := some ⟨signIn.username, signIn.session⟩

/-- A `setItemAsync`, or a `deleteItemAsync`, on its way to the secure store. -/
structure Write where
  key : StoreKey
  value : Option Stamped
  deriving DecidableEq

/-- The module's variables and the secure store behind them. -/
structure TokenStore where
  cache : TokenSet := {}
  stored : StoreKey → Option Stamped := fun _ => none
  /-- `refreshInFlight` is set. -/
  refreshInFlight : Bool := false
  /-- How many times `setTokens` has been called, and `clearTokens`. -/
  sets : Nat := 0
  clears : Nat := 0
  /-- A `clearTokens` has completed, and no `setTokens` was called since it began. -/
  signedOut : Bool := false

/-- What happens once every write of a call has landed. -/
inductive AfterWrites where
  | setTokens
  | refreshed
  /-- A `clearTokens`, begun after so many calls of `setTokens`, inside a refresh or not. -/
  | cleared (sets : Nat) (refreshing : Bool)
  deriving DecidableEq

/-- What runs, by what it awaits. A call that has not begun awaits its turn. -/
inductive TokenTask where
  | setTokens (signIn : SignIn)
  | clearTokens
  | signOut
  /-- `stopBackgroundLocationTracking`. -/
  | stopTracking
  /-- `logoutDriver`. -/
  | logout
  | refresh
  /-- `getItemAsync`, after so many calls of `setTokens` and `clearTokens`. -/
  | readStored (asked : Nat)
  | fetch (sent : Stamped) (asked : Nat)
  /-- `response.json()`. -/
  | body (sent : Stamped) (asked : Nat)
  | writes (pending : List Write) (after : AfterWrites)
  /-- The `finally` of `refreshAccessToken`. -/
  | finishing
  | done
  deriving DecidableEq

/-- What is called. -/
inductive TokenEntry where
  | setTokens (signIn : SignIn)
  | clearTokens
  | signOut
  | refreshAccessToken
  deriving DecidableEq

/-- What is awaited comes to. -/
inductive TokenAnswer where
  | works
  /-- 401 or 403. -/
  | rejected
  /-- The network fails, or the response is another error or malformed. -/
  | fails
  /-- The body of a refresh. -/
  | tokens (token refreshToken : String)
  /-- The write at an index of those that are pending lands. -/
  | lands (index : Nat)
  deriving DecidableEq

/-- Where a call begins. -/
def TokenEntry.start : TokenEntry → TokenTask
  | .setTokens signIn => .setTokens signIn
  | .clearTokens => .clearTokens
  | .signOut => .signOut
  | .refreshAccessToken => .refresh

namespace TokenStore

variable (store : TokenStore)

/-- `setTokens`, up to its await. -/
def setTokens (signIn : SignIn) : TokenStore × TokenTask :=
  ({ store with cache := signIn.tokens, sets := store.sets + 1, signedOut := false },
    .writes [⟨.token, signIn.tokens.token⟩, ⟨.refreshToken, signIn.tokens.refreshToken⟩,
      ⟨.role, signIn.tokens.role⟩, ⟨.username, signIn.tokens.username⟩] .setTokens)

/-- `setRefreshedTokens`, up to its await: the role and the username stay. -/
def setRefreshedTokens (token refreshToken : Stamped) : TokenStore × TokenTask :=
  ({ store with cache := { store.cache with token := some token, refreshToken := some refreshToken } },
    .writes [⟨.token, some token⟩, ⟨.refreshToken, some refreshToken⟩] .refreshed)

/-- `clearTokens`, up to its await. -/
def clearTokens (refreshing : Bool) : TokenStore × TokenTask :=
  ({ store with cache := {}, clears := store.clears + 1 },
    .writes [⟨.token, none⟩, ⟨.refreshToken, none⟩, ⟨.role, none⟩, ⟨.username, none⟩]
      (.cleared store.sets refreshing))

/-- A write lands. -/
def put (write : Write) : TokenStore :=
  { store with stored := fun key => if key = write.key then write.value else store.stored key }

/-- Every write of a call has landed. -/
def complete : AfterWrites → TokenStore × TokenTask
  | .setTokens => (store, .done)
  | .refreshed => (store, .finishing)
  | .cleared sets refreshing =>
    (if sets = store.sets then { store with signedOut := true } else store,
      if refreshing then .finishing else .done)

/-- How many times the session has been changed. -/
def changes : Nat := store.sets + store.clears

/-- A task from one await to the next. -/
def resume (answer : TokenAnswer) : TokenTask → TokenStore × TokenTask
  | .setTokens signIn => store.setTokens signIn
  | .clearTokens => store.clearTokens false
  | .signOut => (store, .stopTracking)
  | .stopTracking => (store, .logout)
  | .logout => store.clearTokens false
  | .refresh =>
    -- Whoever comes second awaits the promise of the first.
    if store.refreshInFlight then (store, .done)
    else
      match store.cache.refreshToken with
      | some sent => ({ store with refreshInFlight := true }, .fetch sent store.changes)
      | none => ({ store with refreshInFlight := true }, .readStored store.changes)
  | .readStored asked =>
    match store.stored .refreshToken with
    | some sent => (store, .fetch sent asked)
    | none => (store, .finishing)
  | .fetch sent asked =>
    match answer with
    | .works => (store, .body sent asked)
    | .rejected => store.clearTokens true
    | _ => (store, .finishing)
  | .body sent _ =>
    match answer with
    | .tokens token refreshToken =>
      store.setRefreshedTokens ⟨token, sent.session⟩ ⟨refreshToken, sent.session⟩
    | _ => (store, .finishing)
  | .writes pending after =>
    match answer with
    | .lands index =>
      match pending[index]? with
      | some write =>
        if (pending.eraseIdx index).isEmpty then (store.put write).complete after
        else (store.put write, .writes (pending.eraseIdx index) after)
      | none => (store, .writes pending after)
    | _ => (store, .writes pending after)
  | .finishing => ({ store with refreshInFlight := false }, .done)
  | .done => (store, .done)

end TokenStore

/-- The token store of one app. What is in the secure store outlives the process. -/
def tokenStore : EventLoop TokenStore TokenEntry TokenTask TokenAnswer Empty where
  start := TokenEntry.start
  resume := fun store answer task => store.resume answer task
  outside := fun event _ => event.elim
  crash := fun store => { store with cache := {}, refreshInFlight := false }

end Freight.Driver.Session
