import Freight.Library.Pool

/-! Two programs on one phone exchange the refresh token of one session: the app, and its location service. -/

namespace Freight.Driver.Session

/-- Who asks for an exchange: the app since it was last started, or an instance of the native service. -/
inductive Refresher where
  | app (start : Nat)
  | service (number : Nat)
  deriving DecidableEq

/-- One session: its refresh tokens by number, where the phone holds them, and which of them the server still takes. -/
structure Handset where
  /-- Neither revoked nor expired. -/
  live : List Nat := [0]
  /-- Above every number drawn. -/
  serial : Nat := 1
  /-- The cache of the token store. -/
  cache : Option Nat := some 0
  /-- The secure store. -/
  stored : Option Nat := some 0
  /-- The shared preferences of the native service. -/
  prefs : Option Nat := some 0
  /-- How often the app has been started. -/
  appStart : Nat := 0
  /-- Every token that has reached the phone, written down for the proofs; no code reads it. -/
  delivered : List Nat := [0]

/-- The token an exchange by the app would be asked for with. -/
def Handset.presented (phone : Handset) : Option Nat := phone.cache.or phone.stored

/-- An exchange, at the await it has reached. -/
inductive RefreshCall where
  | asking (who : Refresher)
  /-- `SecureStore.getItemAsync`, where the cache is empty. -/
  | readStored (who : Refresher)
  /-- At the server, in `validateRefreshToken`. -/
  | validate (who : Refresher) (token : Nat)
  /-- About to look the account up. -/
  | readUser (who : Refresher) (token : Nat)
  /-- In `revokeRefreshToken`. -/
  | rotate (who : Refresher) (token : Nat)
  /-- In `issueRefreshToken`. -/
  | issue (who : Refresher) (token : Nat)
  /-- On the way back: a new token, or 401. -/
  | answered (who : Refresher) (token : Option Nat)
  /-- In `setRefreshedTokens`, with the cache set. -/
  | store (who : Refresher) (token : Nat)
  /-- In `updateToken` of the native module. -/
  | hand (token : Nat)
  /-- In `clearTokens`, with the cache cleared. -/
  | clear (who : Refresher)
  | done
  deriving DecidableEq

/-- What a step of an exchange does. -/
inductive RefreshStatement where
  | nothing
  /-- `refreshInFlight` is set. -/
  | begin (who : Refresher)
  | revoke (token : Nat)
  | insert
  | setCache (token : Nat)
  | setStored (token : Nat)
  | setPrefs (token : Nat)
  | clearCache
  /-- The secure store and the preferences. -/
  | clearStored
  deriving DecidableEq

/-- A statement, and what it makes of the phone and of the server. -/
def RefreshStatement.execute (statement : RefreshStatement) (phone : Handset) : Handset :=
  match statement with
  | .nothing | .begin _ => phone
  | .revoke token => { phone with live := phone.live.filter (· ≠ token) }
  | .insert => { phone with live := phone.serial :: phone.live, serial := phone.serial + 1 }
  | .setCache token => { phone with cache := some token, delivered := token :: phone.delivered }
  | .setStored token => { phone with stored := some token }
  | .setPrefs token => { phone with prefs := some token, delivered := token :: phone.delivered }
  | .clearCache => { phone with cache := none }
  -- The secure store is emptied, and with it the copy the service reads.
  | .clearStored => { phone with stored := none, prefs := none }

/-- The program that asked is still running. -/
def Refresher.current (who : Refresher) (phone : Handset) : Bool :=
  match who with
  | .app start => start = phone.appStart
  | .service _ => true

/-- `refreshAccessToken` and `performRefresh`, up to the request. -/
def Refresher.ask (who : Refresher) (phone : Handset) : RefreshCall :=
  match who with
  | .app _ =>
    match phone.cache with
    | some token => .validate who token
    -- With an empty cache the app looks into its secure store.
    | none => .readStored who
  | .service _ =>
    match phone.prefs with
    | some token => .validate who token
    | none => .done

/-- What is done with the answer, by the program that asked. -/
def Refresher.receive (who : Refresher) (answer : Option Nat) : RefreshStatement × RefreshCall :=
  match who, answer with
  | .app _, some token => (.setCache token, .store who token)
  -- Only the app takes a refusal for the end of the session.
  | .app _, none => (.clearCache, .clear who)
  | .service _, some token => (.setPrefs token, .done)
  | .service _, none => (.nothing, .done)

/-- What an exchange does next; a statement fails, a message is lost, or a program dies before it arrives. -/
def RefreshCall.next (phone : Handset) (fails : Bool) (call : RefreshCall) : RefreshStatement × RefreshCall :=
  if fails then (.nothing, .done) else
    match call with
    | .asking who => if who.current phone then (.begin who, who.ask phone) else (.nothing, .done)
    | .readStored who =>
      match phone.stored with
      | some token => if who.current phone then (.nothing, .validate who token) else (.nothing, .done)
      | none => (.nothing, .done)
    -- The server's part of the exchange begins here.
    | .validate who token => (.nothing, if token ∈ phone.live then .readUser who token else .answered who none)
    | .readUser who token => (.nothing, .rotate who token)
    | .rotate who token => (.revoke token, .issue who token)
    | .issue who _ => (.insert, .answered who (some phone.serial))
    -- An answer is heard only by a program that has not been started anew since.
    | .answered who answer => if who.current phone then who.receive answer else (.nothing, .done)
    | .store who token => (.setStored token, if who.current phone then .hand token else .done)
    | .hand token => (.setPrefs token, .done)
    | .clear _ => (.clearStored, .done)
    | .done => (.nothing, .done)

/-- What else happens on the phone. -/
inductive HandsetEvent where
  /-- The app dies, and is woken or opened again. -/
  | restart
  /-- `hydrateTokenStore`. -/
  | hydrate
  /-- `startNativeServiceIfPossible`. -/
  | startService
  /-- `stopNativeLocationService`, at the end of a shift. -/
  | stopService
  deriving DecidableEq

/-- What it makes of what is held. -/
def HandsetEvent.happen (event : HandsetEvent) (phone : Handset) : Handset :=
  match event with
  | .restart => { phone with cache := none, appStart := phone.appStart + 1 }
  | .hydrate => { phone with cache := phone.stored }
  | .startService => { phone with prefs := phone.cache.or phone.prefs }
  | .stopService => { phone with prefs := none }

/-- What keeps others from asking meanwhile: they share the answer. -/
def RefreshCall.holds : RefreshCall → List Refresher
  | .readStored who | .validate who _ | .readUser who _ | .rotate who _ | .issue who _ | .answered who _
  | .store who _ | .clear who => [who]
  | .asking _ | .hand _ | .done => []

/-- Both programs, from one sign-in on. -/
def handsetSystem : CallSystem Handset RefreshStatement Refresher RefreshCall Bool HandsetEvent Refresher where
  start who := .asking who
  next := RefreshCall.next
  execute := RefreshStatement.execute
  holds := RefreshCall.holds
  -- Each program has one exchange under way at most.
  needs
    | .begin who => [who]
    | _ => []
  outside := HandsetEvent.happen
  outsideNeeds _ := []
  stopped := .done

/-- An exchange of the app's past the check of its token: it is going to bring a new one. -/
def RefreshCall.brings (phone : Handset) : RefreshCall → Bool
  | .readUser who _ | .rotate who _ | .issue who _ => who = .app phone.appStart
  | .answered who (some token) => who = .app phone.appStart && token ∈ phone.live
  | _ => false

/-- The token the app would present is taken, or a new one is being brought. -/
def Spared (phone : Handset) (calls : List RefreshCall) : Prop :=
  ∀ token, phone.presented = some token → token ∈ phone.live ∨ ∃ call ∈ calls, call.brings phone

/-- The app can go on with its session, and is not being told otherwise. -/
structure SessionKept (phone : Handset) (calls : List RefreshCall) : Prop where
  spared : Spared phone calls
  unrefused : .answered (.app phone.appStart) none ∉ calls

end Freight.Driver.Session
