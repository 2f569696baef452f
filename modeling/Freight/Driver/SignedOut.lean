import Freight.Driver.TokenStore

/-! Signing out sticks, and tokens stay with their session, where no change overtakes another. -/

namespace Freight.Driver.Session

variable {store later : TokenStore} {task new : TokenTask} {others tasks : List TokenTask}
  {answer : TokenAnswer}

/-- Everything the cache holds comes from one session. -/
def TokenSet.From (set : TokenSet) (session : Nat) : Prop :=
  ∀ key value, set.get key = some value → value.session = session

/-- Signing out sticks, and what the cache holds is of one session. -/
structure Sticks (store : TokenStore) : Prop where
  gone : store.signedOut = true → store.cache.token = none ∧ store.cache.refreshToken = none ∧
    store.stored .token = none ∧ store.stored .refreshToken = none
  oneSession : (store.cache.token.isSome ∨ store.cache.refreshToken.isSome) →
    ∃ session, store.cache.From session

/-- It ends a `clearTokens`, begun after so many calls of `setTokens`. -/
def AfterWrites.clearedAt : AfterWrites → Option Nat
  | .cleared sets _ => some sets
  | _ => none

/-- It goes on with the refresh that is in flight. -/
def AfterWrites.refreshes : AfterWrites → Bool
  | .refreshed | .cleared _ true => true
  | _ => false

namespace TokenTask

/-- The writes it waits for. -/
def pending : TokenTask → List Write
  | .writes pending _ => pending
  | _ => []

/-- It is a `clearTokens` in progress, begun after so many calls of `setTokens`. -/
def clearedAt : TokenTask → Option Nat
  | .writes _ after => after.clearedAt
  | _ => none

/-- It is a refresh that may still be answered, begun after so many changes of the session. -/
def asked : TokenTask → Option Nat
  | .readStored asked | .fetch _ asked | .body _ asked => some asked
  | _ => none

/-- The refresh token it has sent. -/
def sent : TokenTask → Option Stamped
  | .fetch sent _ | .body sent _ => some sent
  | _ => none

/-- It is the refresh that is in flight. -/
def refreshes : TokenTask → Bool
  | .readStored _ | .fetch _ _ | .body _ _ | .finishing => true
  | .writes _ after => after.refreshes
  | _ => false

/-- What each task may count on, and what it owes. -/
structure Fine (store : TokenStore) (task : TokenTask) : Prop where
  /-- Once the cache is empty, nothing is left that would be stored. -/
  noValue : store.cache = {} → ∀ write ∈ task.pending, write.value = none
  clearedBefore : ∀ sets, task.clearedAt = some sets → sets ≤ store.sets
  /-- What a `clearTokens` has not deleted yet it is about to. -/
  clearing : task.clearedAt = some store.sets →
    store.cache = {} ∧ ∀ key, ⟨key, none⟩ ∈ task.pending ∨ store.stored key = none
  askedBefore : ∀ asked, task.asked = some asked → asked ≤ store.changes
  /-- While the session is the one that asked, an answer finds nothing of another. -/
  reads : task.asked = some store.changes → task.sent = none → store.cache = {}
  asks : task.asked = some store.changes → ∀ sent, task.sent = some sent →
    store.signedOut = false ∧ store.cache.From sent.session

end TokenTask

/-- What is kept in every interleaving that changes the session in turn. -/
structure Kept (store : TokenStore) (tasks : List TokenTask) : Prop where
  gone : store.signedOut = true → store.cache = {} ∧
    store.stored .token = none ∧ store.stored .refreshToken = none
  session : ∃ session, store.cache.From session
  empty : store.cache.refreshToken = none → store.cache = {}
  each : ∀ task ∈ tasks, task.Fine store
  /-- A session being cleared is not one that is being refreshed. -/
  apart : ∀ one ∈ tasks, one.asked = some store.changes → ∀ other ∈ tasks, other.clearedAt ≠ some store.sets
  one : tasks.countP TokenTask.refreshes = store.refreshInFlight.toNat

/-- What is kept is more than what is promised. -/
theorem Kept.sticks (kept : Kept store tasks) : Sticks store where
  -- With the cache empty it has neither a token nor a user.
  gone := fun out => by
    obtain ⟨empty, token, refreshToken⟩ := kept.gone out
    rw [empty]
    exact ⟨rfl, rfl, token, refreshToken⟩
  oneSession := fun _ => kept.session

/-- A task that changes nothing but itself keeps everything. -/
theorem Kept.replace (kept : Kept store (task :: others)) (fine : new.Fine store)
    (asked : ∀ asked, new.asked = some asked → task.asked = some asked)
    (cleared : ∀ sets, new.clearedAt = some sets → task.clearedAt = some sets)
    (refreshes : new.refreshes = task.refreshes) : Kept store (new :: others) where
  gone := kept.gone
  session := kept.session
  empty := kept.empty
  each := by
    intro other member
    rcases List.mem_cons.mp member with rfl | among
    · exact fine
    · exact kept.each other (List.mem_cons_of_mem _ among)
  apart := by
    -- Whatever the new task is said to be, the old one was.
    have was (one : TokenTask) (member : one ∈ new :: others) :
        ∃ old ∈ task :: others, (∀ asked, one.asked = some asked → old.asked = some asked) ∧
          ∀ sets, one.clearedAt = some sets → old.clearedAt = some sets := by
      rcases List.mem_cons.mp member with rfl | among
      · exact ⟨task, List.mem_cons_self, asked, cleared⟩
      · exact ⟨one, List.mem_cons_of_mem _ among, fun _ => id, fun _ => id⟩
    intro one listed asks other member clears
    obtain ⟨asker, asking, same, -⟩ := was one listed
    obtain ⟨clearer, clearing, -, at_⟩ := was other member
    exact kept.apart asker asking (same _ asks) clearer clearing (at_ _ clears)
  one := by
    have one := kept.one
    rw [List.countP_cons] at one ⊢
    rw [refreshes]
    exact one

/-- A task that is idle is fine. -/
theorem fine_of_idle (pending : new.pending = []) (cleared : new.clearedAt = none)
    (asked : new.asked = none) : new.Fine store where
  -- Every clause starts from something that an idle task has not.
  noValue := fun _ write member => by rw [pending] at member; cases member
  clearedBefore := fun sets at_ => by rw [cleared] at at_; cases at_
  clearing := fun at_ => by rw [cleared] at at_; cases at_
  askedBefore := fun _ asks => by rw [asked] at asks; cases asks
  reads := fun asks => by rw [asked] at asks; cases asks
  asks := fun asks => by rw [asked] at asks; cases asks

/-- Who was told apart by the old session is not taken for one of the new. -/
theorem Kept.setTokens {signIn : SignIn} (kept : Kept store (.setTokens signIn :: others)) :
    Kept (store.setTokens signIn).1 ((store.setTokens signIn).2 :: others) where
  gone := fun out => by cases out
  session := by
    refine ⟨signIn.session, fun key value held => ?_⟩
    cases key <;> cases held <;> rfl
  empty := fun none_ => by cases none_
  each := by
    intro other member
    -- A task that was there carries the number of an older session.
    rcases List.mem_cons.mp member with rfl | among
    · exact {
        noValue := fun empty => by cases empty
        clearedBefore := fun _ at_ => by cases at_
        clearing := fun at_ => by cases at_
        askedBefore := fun _ asks => by cases asks
        reads := fun asks => by cases asks
        asks := fun asks => by cases asks }
    · have fine := kept.each other (List.mem_cons_of_mem _ among)
      -- Whoever asks has asked before this sign-in.
      have late (asks : other.asked = some (store.setTokens signIn).1.changes) : False := by
        have before := fine.askedBefore _ asks
        simp only [TokenStore.changes, TokenStore.setTokens] at before
        omega
      exact {
        noValue := fun empty => by cases empty
        clearedBefore := fun sets at_ => Nat.le_succ_of_le (fine.clearedBefore sets at_)
        clearing := fun at_ => absurd (fine.clearedBefore _ at_) (Nat.not_succ_le_self _)
        askedBefore := fun asked asks => by
          have before := fine.askedBefore asked asks
          simp only [TokenStore.changes, TokenStore.setTokens] at before ⊢
          omega
        reads := fun asks => (late asks).elim
        asks := fun asks => (late asks).elim }
  apart := by
    intro one _ _ other member at_
    rcases List.mem_cons.mp member with rfl | among
    · cases at_
    · have before := (kept.each other (List.mem_cons_of_mem _ among)).clearedBefore _ at_
      exact absurd before (Nat.not_succ_le_self _)
  one := kept.one

/-- A session is cleared where nothing is left that would be stored. -/
theorem Kept.clearTokens (kept : Kept store (task :: others))
    (landed : ∀ other ∈ others, ∀ write ∈ other.pending, write.value = none) {refreshing : Bool}
    (refreshes : task.refreshes = refreshing) :
    Kept (store.clearTokens refreshing).1 ((store.clearTokens refreshing).2 :: others) where
  gone := fun out => ⟨rfl, (kept.gone out).2⟩
  session := ⟨0, fun key _ held => by cases key <;> cases held⟩
  empty := fun _ => rfl
  each := by
    intro other member
    rcases List.mem_cons.mp member with rfl | among
    -- The clearing itself has both of its values to remove.
    · exact {
        noValue := fun _ => by simp [TokenStore.clearTokens, TokenTask.pending]
        clearedBefore := fun sets at_ => by cases at_; exact Nat.le_refl _
        clearing := fun _ => ⟨rfl, fun key => .inl (by
          cases key <;> simp [TokenStore.clearTokens, TokenTask.pending])⟩
        askedBefore := fun _ asks => by cases asks
        reads := fun asks => by cases asks
        asks := fun asks => by cases asks }
    · have fine := kept.each other (List.mem_cons_of_mem _ among)
      have late (asks : other.asked = some (store.clearTokens refreshing).1.changes) : False := by
        have before := fine.askedBefore _ asks
        simp only [TokenStore.changes, TokenStore.clearTokens] at before
        omega
      exact {
        noValue := fun _ => landed other among
        clearedBefore := fine.clearedBefore
        clearing := fun at_ => ⟨rfl, (fine.clearing at_).2⟩
        askedBefore := fun asked asks => by
          have before := fine.askedBefore asked asks
          simp only [TokenStore.changes, TokenStore.clearTokens] at before ⊢
          omega
        reads := fun asks => (late asks).elim
        asks := fun asks => (late asks).elim }
  apart := by
    -- Nobody has asked since this very change.
    intro one listed asks
    rcases List.mem_cons.mp listed with rfl | among
    · cases asks
    · have before := (kept.each one (List.mem_cons_of_mem _ among)).askedBefore _ asks
      simp only [TokenStore.changes, TokenStore.clearTokens] at before
      omega
  one := by
    have one := kept.one
    rw [List.countP_cons] at one ⊢
    -- It refreshes where the call that clears did.
    have same : (store.clearTokens refreshing).2.refreshes = task.refreshes := by
      rw [refreshes]
      cases refreshing <;> rfl
    rw [same]
    exact one

/-- Where no refresh is in flight, one may begin. -/
theorem Kept.begins (kept : Kept store (task :: others)) (idle : store.refreshInFlight = false)
    (fine : new.Fine store) (refreshes : new.refreshes = true) (cleared : new.clearedAt = none)
    (none_clears : ∀ other ∈ others, other.clearedAt ≠ some store.sets) :
    Kept { store with refreshInFlight := true } (new :: others) where
  gone := kept.gone
  session := kept.session
  empty := kept.empty
  each := by
    intro other member
    -- Whether a refresh is in flight is nothing another task counts on.
    have same (fine : other.Fine store) : other.Fine { store with refreshInFlight := true } :=
      ⟨fine.noValue, fine.clearedBefore, fine.clearing, fine.askedBefore, fine.reads, fine.asks⟩
    rcases List.mem_cons.mp member with rfl | among
    · exact same fine
    · exact same (kept.each other (List.mem_cons_of_mem _ among))
  apart := by
    intro one _ _ other member at_
    rcases List.mem_cons.mp member with rfl | among
    · rw [cleared] at at_
      cases at_
    · exact none_clears other among at_
  one := by
    have one := kept.one
    rw [idle, List.countP_cons] at one
    rw [List.countP_cons_of_pos refreshes]
    -- None of the others refreshes, so the new one is alone.
    have none_ : others.countP TokenTask.refreshes = 0 := by
      simp only [Bool.toNat_false] at one
      omega
    rw [none_]
    rfl

/-- With the refresh in flight at hand, no other task asks for anything. -/
theorem Kept.alone (kept : Kept store (task :: others)) (refreshes : task.refreshes = true) :
    ∀ other ∈ others, other.asked = none := by
  -- At most one refresh is in flight, and this is it; whoever asks is refreshing.
  intro other member
  have one := kept.one
  rw [List.countP_cons_of_pos refreshes] at one
  have none_ : others.countP TokenTask.refreshes = 0 := by
    have := Bool.toNat_le store.refreshInFlight
    omega
  have idle := List.countP_eq_zero.mp none_ other member
  cases other with
  | readStored _ | fetch _ _ | body _ _ => exact absurd rfl idle
  | _ => rfl

/-- An answer to the session that asked is merged into what the cache holds of it. -/
theorem Kept.merge {sent : Stamped} {asked : Nat} (kept : Kept store (.body sent asked :: others))
    (same : asked = store.changes) (token refreshToken : String) :
    Kept (store.setRefreshedTokens ⟨token, sent.session⟩ ⟨refreshToken, sent.session⟩).1
      ((store.setRefreshedTokens ⟨token, sent.session⟩ ⟨refreshToken, sent.session⟩).2 :: others) := by
  subst same
  have own := kept.each _ List.mem_cons_self
  obtain ⟨inside, held⟩ := own.asks rfl sent rfl
  have quiet := kept.alone rfl
  have unclear := kept.apart _ List.mem_cons_self rfl
  refine ⟨fun out => absurd (inside.symm.trans out) (by decide), ⟨sent.session, ?_⟩,
    fun none_ => absurd none_ (Option.some_ne_none _), ?_, ?_, kept.one⟩
  · intro key value there
    -- The tokens are the new ones of the same session, and what else is cached was of that session before.
    cases key with
    | token | refreshToken => cases there; rfl
    | role => exact held .role value there
    | username => exact held .username value there
  · intro other member
    rcases List.mem_cons.mp member with rfl | among
    · exact {
        noValue := fun empty => by cases empty
        clearedBefore := fun _ at_ => by cases at_
        clearing := fun at_ => by cases at_
        askedBefore := fun _ asks => by cases asks
        reads := fun asks => by cases asks
        asks := fun asks => by cases asks }
    · -- Another task neither clears this session nor has asked for it.
      have fine := kept.each other (List.mem_cons_of_mem _ among)
      exact {
        noValue := fun empty => by cases empty
        clearedBefore := fine.clearedBefore
        clearing := fun at_ => absurd at_ (unclear other (List.mem_cons_of_mem _ among))
        askedBefore := fine.askedBefore
        reads := fun asks => by rw [quiet other among] at asks; cases asks
        asks := fun asks => by rw [quiet other among] at asks; cases asks }
  · intro one listed asks
    rcases List.mem_cons.mp listed with rfl | among
    · cases asks
    · rw [quiet one among] at asks
      cases asks

/-- A pending write is the one that lands, or one that still has to. -/
theorem pending_cases {pending : List Write} {index : Nat} {write : Write} (found : pending[index]? = some write)
    {other : Write} (member : other ∈ pending) : other = write ∨ other ∈ pending.eraseIdx index := by
  -- Put back at its place, the write makes up the list again.
  obtain ⟨within, same⟩ := List.getElem?_eq_some_iff.mp found
  have split := (List.getElem_cons_eraseIdx_perm within).mem_iff.mpr member
  rw [same] at split
  exact List.mem_cons.mp split

/-- While a session is being cleared, what lands is a deletion. -/
theorem Kept.deletes {pending : List Write} {after : AfterWrites}
    (kept : Kept store (.writes pending after :: others)) {write : Write} (listed : write ∈ pending)
    (empty : store.cache = {}) : write.value = none :=
  (kept.each _ List.mem_cons_self).noValue empty write listed

/-- A write that lands leaves other tasks what they count on. -/
theorem Kept.put_others {pending : List Write} {after : AfterWrites}
    (kept : Kept store (.writes pending after :: others)) {write : Write} (listed : write ∈ pending) :
    ∀ other ∈ others, other.Fine (store.put write) := by
  intro other member
  have fine := kept.each other (List.mem_cons_of_mem _ member)
  refine ⟨fine.noValue, fine.clearedBefore, fun at_ => ?_, fine.askedBefore, fine.reads, fine.asks⟩
  obtain ⟨empty, keys⟩ := fine.clearing at_
  refine ⟨empty, fun key => ?_⟩
  -- A key that is to be deleted stays deleted, because this call writes nothing over it.
  rcases keys key with due | deleted
  · exact .inl due
  · right
    show (if key = write.key then write.value else store.stored key) = none
    split
    · exact kept.deletes listed empty
    · exact deleted

/-- What is signed out stays so when a write lands. -/
theorem Kept.put_gone {pending : List Write} {after : AfterWrites}
    (kept : Kept store (.writes pending after :: others)) {write : Write} (listed : write ∈ pending)
    (out : store.signedOut = true) : (store.put write).cache = {} ∧
      (store.put write).stored .token = none ∧ (store.put write).stored .refreshToken = none := by
  -- Signed out, whatever is still to be written is a deletion.
  obtain ⟨empty, token, refreshToken⟩ := kept.gone out
  have deleted := kept.deletes listed empty
  refine ⟨empty, ?_, ?_⟩
  · show (if StoreKey.token = write.key then write.value else store.stored .token) = none
    split <;> assumption
  · show (if StoreKey.refreshToken = write.key then write.value else store.stored .refreshToken) = none
    split <;> assumption

/-- A write lands, and others of its call are still to come. -/
theorem Kept.lands {pending : List Write} {after : AfterWrites} {index : Nat} {write : Write}
    (kept : Kept store (.writes pending after :: others)) (found : pending[index]? = some write) :
    Kept (store.put write) (.writes (pending.eraseIdx index) after :: others) where
  gone := kept.put_gone (List.mem_of_getElem? found)
  session := kept.session
  empty := kept.empty
  each := by
    intro other member
    rcases List.mem_cons.mp member with rfl | among
    · have fine := kept.each _ List.mem_cons_self
      refine ⟨fun empty due listed => fine.noValue empty due (List.mem_of_mem_eraseIdx listed),
        fine.clearedBefore, fun at_ => ?_, fine.askedBefore, fine.reads, fine.asks⟩
      obtain ⟨empty, keys⟩ := fine.clearing at_
      have none_ := kept.deletes (List.mem_of_getElem? found) empty
      refine ⟨empty, fun key => ?_⟩
      show _ ∨ (if key = write.key then write.value else store.stored key) = none
      -- The key that is written is deleted now; the others are still due or were deleted before.
      by_cases own : key = write.key
      · exact .inr (by rw [if_pos own, none_])
      · rw [if_neg own]
        rcases keys key with due | deleted
        · refine .inl ((pending_cases found due).resolve_left ?_)
          rintro rfl
          exact own rfl
        · exact .inr deleted
    · exact kept.put_others (List.mem_of_getElem? found) other among
  apart := by
    -- Taking one write off the list changes neither what a call asks nor what it clears.
    have was (one : TokenTask) (member : one ∈ TokenTask.writes (pending.eraseIdx index) after :: others) :
        ∃ old ∈ TokenTask.writes pending after :: others,
          one.asked = old.asked ∧ one.clearedAt = old.clearedAt := by
      rcases List.mem_cons.mp member with rfl | among
      · exact ⟨_, List.mem_cons_self, rfl, rfl⟩
      · exact ⟨one, List.mem_cons_of_mem _ among, rfl, rfl⟩
    intro one listed asks other member at_
    obtain ⟨asker, asking, same, -⟩ := was one listed
    obtain ⟨clearer, clearing, -, cleared⟩ := was other member
    exact kept.apart asker asking (same.symm.trans asks) clearer clearing (cleared.symm.trans at_)
  one := kept.one

/-- The last write of a call lands. -/
theorem Kept.completes {pending : List Write} {after : AfterWrites} {index : Nat} {write : Write}
    (kept : Kept store (.writes pending after :: others)) (found : pending[index]? = some write)
    (last : (pending.eraseIdx index).isEmpty = true) :
    Kept ((store.put write).complete after).1 (((store.put write).complete after).2 :: others) := by
  have landed := kept.lands found
  rw [List.isEmpty_iff.mp last] at landed
  have finishes : Kept (store.put write) (((store.put write).complete after).2 :: others) := by
    cases after with
    | setTokens => exact landed.replace (fine_of_idle rfl rfl rfl) (fun _ => id) (fun _ at_ => by cases at_) rfl
    | refreshed => exact landed.replace (fine_of_idle rfl rfl rfl) (fun _ => id) (fun _ at_ => by cases at_) rfl
    | cleared sets refreshing =>
      cases refreshing with
      | false => exact landed.replace (fine_of_idle rfl rfl rfl) (fun _ => id) (fun _ at_ => by cases at_) rfl
      | true => exact landed.replace (fine_of_idle rfl rfl rfl) (fun _ => id) (fun _ at_ => by cases at_) rfl
  -- Only a call that clears signs out when it is done.
  cases after with
  | setTokens | refreshed => exact finishes
  | cleared sets refreshing =>
    by_cases current : sets = (store.put write).sets
    · -- The session is signed out: the cache is empty, and each key has been deleted.
      obtain ⟨empty, keys⟩ := (landed.each _ List.mem_cons_self).clearing (congrArg some current)
      have deleted (key : StoreKey) : (store.put write).stored key = none :=
        (keys key).resolve_left List.not_mem_nil
      simp only [TokenStore.complete, if_pos current]
      -- No other task has asked in the session that ends, or it would not have been cleared.
      have out {task : TokenTask} (member : task ∈ others) (fine : task.Fine (store.put write)) :
          task.Fine { store.put write with signedOut := true } := by
        refine ⟨fine.noValue, fine.clearedBefore, fine.clearing, fine.askedBefore, fine.reads, fun asks => ?_⟩
        exact absurd (congrArg some current)
          (landed.apart task (List.mem_cons_of_mem _ member) asks _ List.mem_cons_self)
      refine ⟨fun _ => ⟨empty, deleted _, deleted _⟩, finishes.session, finishes.empty, ?_, ?_, ?_⟩
      · intro other member
        rcases List.mem_cons.mp member with rfl | among
        · cases refreshing <;> exact fine_of_idle rfl rfl rfl
        · exact out among (finishes.each other (List.mem_cons_of_mem _ among))
      · exact finishes.apart
      · exact finishes.one
    · simp only [TokenStore.complete, if_neg current]
      exact finishes

/-- Nothing that is to be stored is still on its way. -/
def NothingPending (tasks : List TokenTask) : Prop :=
  ∀ task ∈ tasks, ∀ write ∈ task.pending, write.value = none

/-- A task does not overtake a change of the session. -/
def InTurn (store : TokenStore) (tasks : List TokenTask) (answer : TokenAnswer) : TokenTask → Prop
  -- An answer is merged for the session that asked.
  | .body _ asked =>
    match answer with
    | .tokens _ _ => asked = store.changes
    | _ => True
  -- A session is cleared once everything that was to be stored has been.
  | .clearTokens | .logout => NothingPending tasks
  | .fetch _ _ => answer = .rejected → NothingPending tasks
  -- A refresh does not turn to the secure store while it is being cleared.
  | .refresh => store.refreshInFlight = false → store.cache.refreshToken = none →
      ∀ other ∈ tasks, other.clearedAt ≠ some store.sets
  | _ => True

/-- A refresh that begins in turn keeps what is kept. -/
theorem Kept.refresh (kept : Kept store (.refresh :: others)) (turn : InTurn store (.refresh :: others) answer .refresh) :
    Kept (store.resume answer .refresh).1 ((store.resume answer .refresh).2 :: others) := by
  cases flying : store.refreshInFlight with
  | true =>
    simp only [TokenStore.resume, flying, if_true]
    exact kept.replace (fine_of_idle rfl rfl rfl) (fun _ => id) (fun _ => id) rfl
  | false =>
    cases held : store.cache.refreshToken with
    | some sent =>
      simp only [TokenStore.resume, flying, held, Bool.false_eq_true, if_false]
      obtain ⟨session, own⟩ := kept.session
      -- What is sent is of the session that is cached.
      have same : sent.session = session := own .refreshToken sent held
      have full : store.cache ≠ {} := fun empty => by rw [empty] at held; cases held
      refine kept.begins flying ⟨fun _ _ listed => absurd listed List.not_mem_nil, fun _ at_ => (by cases at_),
        fun at_ => (by cases at_), fun asked asks => ?_, fun _ unsent => (by cases unsent), fun _ other sends => ?_⟩
        rfl rfl fun other member at_ => ?_
      · cases asks
        exact Nat.le_refl _
      · cases sends
        refine ⟨Bool.eq_false_iff.mpr fun out => full (kept.gone out).1, ?_⟩
        rw [same]
        exact own
      · exact full ((kept.each other (List.mem_cons_of_mem _ member)).clearing at_).1
    | none =>
      simp only [TokenStore.resume, flying, held, Bool.false_eq_true, if_false]
      -- Without a token in the cache, the stored one is read first.
      have empty := kept.empty held
      refine kept.begins flying ⟨fun _ _ listed => absurd listed List.not_mem_nil, fun _ at_ => (by cases at_),
        fun at_ => (by cases at_), fun asked asks => ?_, fun _ _ => empty, fun _ _ sends => (by cases sends)⟩
        rfl rfl fun other member => turn flying held other (List.mem_cons_of_mem _ member)
      cases asks
      exact Nat.le_refl _

/-- What a refresh finds in the secure store it may send. -/
theorem Kept.readStored {asked : Nat} (kept : Kept store (.readStored asked :: others)) :
    Kept (store.resume answer (.readStored asked)).1 ((store.resume answer (.readStored asked)).2 :: others) := by
  have fine := kept.each _ List.mem_cons_self
  cases held : store.stored .refreshToken with
  | none =>
    simp only [TokenStore.resume, held]
    exact kept.replace (fine_of_idle rfl rfl rfl) (fun _ asks => by cases asks) (fun _ => id) rfl
  | some sent =>
    simp only [TokenStore.resume, held]
    refine kept.replace ⟨fun _ _ listed => absurd listed List.not_mem_nil, fine.clearedBefore, fine.clearing,
      fine.askedBefore, fun _ unsent => (by cases unsent), fun asks other sends => ?_⟩ (fun _ => id) (fun _ => id) rfl
    cases sends
    -- Whoever is signed out has nothing stored.
    have empty := fine.reads asks rfl
    refine ⟨Bool.eq_false_iff.mpr fun out => ?_, fun key value there => ?_⟩
    · have deleted := (kept.gone out).2.2
      rw [held] at deleted
      cases deleted
    · rw [empty] at there
      cases key <;> cases there

/-- A refresh that is over makes room for another. -/
theorem Kept.finishes (kept : Kept store (.finishing :: others)) :
    Kept { store with refreshInFlight := false } (.done :: others) where
  gone := kept.gone
  session := kept.session
  empty := kept.empty
  each := by
    intro other member
    rcases List.mem_cons.mp member with rfl | among
    · exact fine_of_idle rfl rfl rfl
    · have fine := kept.each other (List.mem_cons_of_mem _ among)
      exact ⟨fine.noValue, fine.clearedBefore, fine.clearing, fine.askedBefore, fine.reads, fine.asks⟩
  apart := by
    intro one listed asks other member at_
    rcases List.mem_cons.mp listed with rfl | among
    · cases asks
    · rcases List.mem_cons.mp member with rfl | within
      · cases at_
      · exact kept.apart one (List.mem_cons_of_mem _ among) asks other (List.mem_cons_of_mem _ within) at_
  one := by
    -- It was the one that was in flight.
    have one := kept.one
    rw [List.countP_cons_of_pos rfl] at one
    have none_ : others.countP TokenTask.refreshes = 0 := by
      have := Bool.toNat_le store.refreshInFlight
      omega
    rw [List.countP_cons_of_neg (by decide), none_]
    rfl

/-- Every task that is in turn keeps what is kept. -/
theorem Kept.resume (kept : Kept store (task :: others)) (turn : InTurn store (task :: others) answer task) :
    Kept (store.resume answer task).1 ((store.resume answer task).2 :: others) := by
  -- A session is cleared only once nothing is left to be written of it.
  have landed (nothing : NothingPending (task :: others)) :
      ∀ other ∈ others, ∀ write ∈ other.pending, write.value = none :=
    fun other member => nothing other (List.mem_cons_of_mem _ member)
  -- A task that ends here asks nothing, clears nothing and writes nothing.
  have ends {new : TokenTask} (refreshes : new.refreshes = task.refreshes) (pending : new.pending = [])
      (cleared : new.clearedAt = none) (asked : new.asked = none) : Kept store (new :: others) :=
    kept.replace (fine_of_idle pending cleared asked) (fun _ asks => by rw [asked] at asks; cases asks)
      (fun _ at_ => by rw [cleared] at at_; cases at_) refreshes
  cases task with
  | setTokens signIn => exact kept.setTokens
  | clearTokens => exact kept.clearTokens (landed turn) rfl
  | logout => exact kept.clearTokens (landed turn) rfl
  | signOut | stopTracking | done => exact ends rfl rfl rfl rfl
  | refresh => exact kept.refresh turn
  | readStored asked => exact kept.readStored
  | fetch sent asked =>
    have fine := kept.each _ List.mem_cons_self
    cases answer with
    | rejected => exact kept.clearTokens (landed (turn rfl)) rfl
    | works =>
      exact kept.replace ⟨fine.noValue, fine.clearedBefore, fine.clearing, fine.askedBefore, fine.reads, fine.asks⟩
        (fun _ => id) (fun _ => id) rfl
    | fails | tokens _ _ | lands _ => exact ends rfl rfl rfl rfl
  | body sent asked =>
    cases answer with
    | tokens token refreshToken => exact kept.merge turn token refreshToken
    | works | rejected | fails | lands _ => exact ends rfl rfl rfl rfl
  | writes pending after =>
    cases answer with
    | lands index =>
      cases found : pending[index]? with
      | none =>
        simp only [TokenStore.resume, found]
        exact kept
      | some write =>
        cases last : (pending.eraseIdx index).isEmpty with
        | true =>
          simp only [TokenStore.resume, found, last, if_true]
          exact kept.completes found last
        | false =>
          simp only [TokenStore.resume, found, last, Bool.false_eq_true, if_false]
          exact kept.lands found
    | works | rejected | fails | tokens _ _ => exact kept
  | finishing => exact kept.finishes

/-- What is resumed is in turn. -/
def TakesTurns (loop : Loop TokenStore TokenTask) : LoopEvent TokenEntry TokenAnswer Empty → Prop
  | .resume index answer => ∀ task ∈ loop.tasks[index]?, InTurn loop.shared loop.tasks answer task
  | _ => True

/-- What is kept does not depend on the order of the tasks. -/
theorem Kept.perm {tasks' : List TokenTask} (same : tasks.Perm tasks') (kept : Kept store tasks) :
    Kept store tasks' where
  -- Each field speaks of all tasks, or counts them.
  gone := kept.gone
  session := kept.session
  empty := kept.empty
  each := fun task member => kept.each task (same.mem_iff.mpr member)
  apart := fun one listed asks other member =>
    kept.apart one (same.mem_iff.mpr listed) asks other (same.mem_iff.mpr member)
  one := same.countP_eq _ ▸ kept.one

/-- A call that has not begun yet keeps what is kept. -/
theorem Kept.calls (kept : Kept store tasks) (entry : TokenEntry) : Kept store (entry.start :: tasks) := by
  -- A call that has not begun has no write pending and asks for nothing.
  have idle : entry.start.pending = [] ∧ entry.start.clearedAt = none ∧ entry.start.asked = none ∧
      entry.start.refreshes = false := by
    cases entry <;> exact ⟨rfl, rfl, rfl, rfl⟩
  refine ⟨kept.gone, kept.session, kept.empty, ?_, ?_, ?_⟩
  · intro task member
    rcases List.mem_cons.mp member with rfl | among
    · exact fine_of_idle idle.1 idle.2.1 idle.2.2.1
    · exact kept.each task among
  · intro one listed asks other member at_
    rcases List.mem_cons.mp listed with rfl | among
    · exact absurd (idle.2.2.1.symm.trans asks) (Option.some_ne_none _).symm
    · rcases List.mem_cons.mp member with rfl | within
      · exact absurd (idle.2.1.symm.trans at_) (Option.some_ne_none _).symm
      · exact kept.apart one among asks other within at_
  · rw [List.countP_cons_of_neg (by rw [idle.2.2.2]; decide)]
    exact kept.one

/-- What the secure store holds outlives a crash, and nothing else does. -/
theorem Kept.crashes (kept : Kept store tasks) :
    Kept { store with cache := {}, refreshInFlight := false } [] where
  -- The cache is gone with the process, and so is every task.
  gone := fun out => ⟨rfl, (kept.gone out).2⟩
  session := ⟨0, fun key _ held => by cases key <;> cases held⟩
  empty := fun _ => rfl
  each := fun _ member => absurd member List.not_mem_nil
  apart := fun _ member => absurd member List.not_mem_nil
  one := rfl

/-- Whose turn it is does not depend on the order of the tasks. -/
theorem inTurn_perm {tasks' : List TokenTask} (same : tasks.Perm tasks') :
    InTurn store tasks answer task ↔ InTurn store tasks' answer task := by
  -- A turn speaks of what some task has pending, never of where it stands.
  have pending : NothingPending tasks ↔ NothingPending tasks' := by simp only [NothingPending, same.mem_iff]
  cases task with
  | clearTokens | logout => exact pending
  | fetch sent asked => exact imp_congr_right fun _ => pending
  | refresh => simp only [InTurn, same.mem_iff]
  | _ => exact Iff.rfl

/-- Every event that takes its turn keeps what is kept. -/
theorem kept_step (loop : Loop TokenStore TokenTask) (event : LoopEvent TokenEntry TokenAnswer Empty)
    (kept : Kept loop.shared loop.tasks) (turns : TakesTurns loop event) :
    Kept (tokenStore.step loop event).shared (tokenStore.step loop event).tasks := by
  -- A call or a resumption may turn the tasks round, which nothing that is kept depends on.
  cases event with
  | outside event => exact event.elim
  | crash => exact kept.crashes
  | call entry => exact (kept.calls entry).perm (List.perm_append_singleton _ _).symm
  | resume index answer =>
    cases found : loop.tasks[index]? with
    | none =>
      rw [EventLoop.step_resume_none answer found]
      exact kept
    | some task =>
      obtain ⟨others, all, shared, after⟩ :=
        @EventLoop.step_resume_found _ _ _ _ _ tokenStore loop index task answer found
      rw [shared]
      exact Kept.perm after.symm ((kept.perm all).resume ((inTurn_perm all).mp (turns task found)))

/-- An app that has just been started, with a session in its cache or none. -/
structure Begins (store : TokenStore) : Prop where
  inside : store.signedOut = false
  idle : store.refreshInFlight = false
  session : ∃ session, store.cache.From session
  empty : store.cache.refreshToken = none → store.cache = {}

/-- Signing out sticks and sessions never mix, where every change of the session takes its turn. -/
theorem signedOut_sticks (store : TokenStore) (events : List (LoopEvent TokenEntry TokenAnswer Empty))
    (begins : Begins store) (turns : Along tokenStore.step TakesTurns ⟨store, []⟩ events) :
    Throughout tokenStore.step (fun loop => Sticks loop.shared) ⟨store, []⟩ events := by
  -- Before the first call the driver is signed in, with one session and nothing under way.
  have initial : Kept store [] := {
    gone := fun out => absurd (begins.inside.symm.trans out) (by decide)
    session := begins.session
    empty := begins.empty
    each := fun _ member => absurd member List.not_mem_nil
    apart := fun _ member => absurd member List.not_mem_nil
    one := by rw [begins.idle]; rfl }
  have kept := @Along.throughout _ _ tokenStore.step TakesTurns (fun loop => Kept loop.shared loop.tasks)
    (fun loop event kept turns => kept_step loop event kept turns) ⟨store, []⟩ events initial turns
  exact kept.mono fun _ kept => kept.sticks

instance (tasks : List TokenTask) : Decidable (NothingPending tasks) :=
  inferInstanceAs (Decidable (∀ task ∈ tasks, ∀ write ∈ task.pending, write.value = none))

instance (store : TokenStore) (tasks : List TokenTask) (answer : TokenAnswer) :
    (task : TokenTask) → Decidable (InTurn store tasks answer task)
  | .body _ asked =>
    match answer with
    | .tokens _ _ => inferInstanceAs (Decidable (asked = store.changes))
    | .works | .rejected | .fails | .lands _ => .isTrue trivial
  | .clearTokens | .logout => inferInstanceAs (Decidable (NothingPending tasks))
  | .fetch _ _ => inferInstanceAs (Decidable (answer = .rejected → NothingPending tasks))
  | .refresh => inferInstanceAs (Decidable (_ → _ → ∀ other ∈ tasks, _))
  | .setTokens _ | .signOut | .stopTracking | .readStored _ | .writes _ _ | .finishing | .done => .isTrue trivial

instance (loop : Loop TokenStore TokenTask) : (event : LoopEvent TokenEntry TokenAnswer Empty) →
    Decidable (TakesTurns loop event)
  | .resume index _ => inferInstanceAs (Decidable (∀ task ∈ loop.tasks[index]?, _))
  | .call _ | .outside _ | .crash => .isTrue trivial

/-- Two drivers' sessions. -/
def signIn (session : Nat) (username : String) : SignIn where
  session := session
  token := "access"
  refreshToken := "refresh"
  role := "driver"
  username := username

/-- The first of them is signed in. -/
def signedIn : TokenStore where
  cache := (signIn 1 "+250788000001").tokens
  stored := (signIn 1 "+250788000001").tokens.get

/-- Its tokens are in the cache. -/
theorem begins_signedIn : Begins signedIn where
  -- The loop starts with no task, and with a session that is stored.
  inside := rfl
  idle := rfl
  session := by
    refine ⟨1, fun key value held => ?_⟩
    cases key <;> cases held <;> rfl
  empty := fun none_ => by cases none_

/-- A refresh that is answered, and then a sign-out. -/
theorem signedOut_in_turn :
    Throughout tokenStore.step (fun loop => Sticks loop.shared) ⟨signedIn, []⟩
      [.call .refreshAccessToken, .resume 0 .works, .resume 0 .works, .resume 0 (.tokens "new" "newer"),
        .resume 0 (.lands 1), .resume 0 (.lands 0), .resume 0 .works, .call .signOut, .resume 1 .works,
        .resume 1 .works, .resume 1 .works, .resume 1 (.lands 3), .resume 1 (.lands 0),
        .resume 1 (.lands 0), .resume 1 (.lands 0)] :=
  signedOut_sticks _ _ begins_signedIn (by decide)

/-- The answer to a refresh arrives after the driver has signed out. -/
def answeredLate : List (LoopEvent TokenEntry TokenAnswer Empty) :=
  [.call .refreshAccessToken, .resume 0 .works, .call .clearTokens, .resume 1 .works, .resume 1 (.lands 0),
    .resume 1 (.lands 0), .resume 1 (.lands 0), .resume 1 (.lands 0), .resume 0 .works,
    .resume 0 (.tokens "new" "newer")]

/-- It arrives after another driver has signed in. -/
def answeredToAnother : List (LoopEvent TokenEntry TokenAnswer Empty) :=
  [.call .refreshAccessToken, .resume 0 .works, .call (.setTokens (signIn 2 "+250788000002")),
    .resume 1 .works, .resume 0 .works, .resume 0 (.tokens "new" "newer")]

/-- Signed out, the app holds tokens again; and the second driver acts with the tokens of the first. -/
theorem answered_out_of_turn :
    ¬ Throughout tokenStore.step (fun loop => Sticks loop.shared) ⟨signedIn, []⟩ answeredLate ∧
      ¬ Throughout tokenStore.step (fun loop => Sticks loop.shared) ⟨signedIn, []⟩ answeredToAnother := by
  -- The first run ends signed out with a token cached, the second with two sessions' values side by side.
  constructor
  · intro throughout
    have gone := (throughout.last.gone (by decide)).1
    exact absurd gone (by decide)
  · intro throughout
    obtain ⟨session, held⟩ := throughout.last.oneSession (by decide)
    have first : 1 = session := held .token ⟨"new", 1⟩ (by decide)
    have second : 2 = session := held .username ⟨"+250788000002", 2⟩ (by decide)
    exact absurd (first.trans second.symm) (by decide)

end Freight.Driver.Session
