import Freight.Driver.Requests

/-! Work is sent under the session it was recorded in, wherever a flush finds no one else's. -/

namespace Freight.Driver

variable {phone : Phone} {answer : Answer} {work : Flush} {token : AccessToken} {reply : Reply}

/-- Every action that was sent went out with a token of the account it was enqueued under. -/
def SentByOwner (phone : Phone) : Prop :=
  ∀ sent ∈ phone.history.log, sent.item.owner = some sent.token.account

/-- The answer is 401. -/
def Reply.unauthorized : Reply → Bool
  | .response status .. => status = 401
  | .silent .. => false

/-- A flush finds no one else's work on the queue, and no one else's refresh token when its own expires. -/
def Task.AmongOwn (phone : Phone) (answer : Answer) : Task → Prop
  | .flush (.readQueue token) => ∀ item ∈ phone.queue, item.owner = some token.account
  | .flush (.send work) =>
    work.item.file = none → (phone.answered work.token answer.reply).unauthorized = true →
      ∀ account ∈ phone.tokens.refreshToken, account = work.token.account
  | _ => True

/-- Flushes find only work, and only tokens, of their own account. -/
def AmongOwn (loop : Loop Phone Task) : LoopEvent Entry Answer PhoneEvent → Prop
  | .resume index answer => ∀ task ∈ loop.tasks[index]?, task.AmongOwn loop.shared answer
  | _ => True

/-- What is ahead of a flush is its own account's. -/
def Flush.Owns (work : Flush) (ahead : List QueuedAction) : Prop :=
  ∀ item ∈ ahead, item.owner = some work.token.account

/-- A flush has only its own account's work ahead of it, and only that account's tokens. -/
def FlushCall.Owns : FlushCall → Prop
  | .send work => work.Owns (work.item :: work.behind)
  | .refresh work account => work.Owns (work.item :: work.behind) ∧ account = work.token.account
  | .resend work token => work.Owns (work.item :: work.behind) ∧ token.account = work.token.account
  | .deletePhoto work _ => work.Owns work.behind
  | _ => True

/-- A call that is no flush has nothing to send. -/
def Task.Owns : Task → Prop
  | .flush call => call.Owns
  | _ => True

/-- Everything sent so far, and everything ahead of a flush, is under the session it was recorded in. -/
structure Owned (phone : Phone) (tasks : List Task) : Prop where
  sent : SentByOwner phone
  ahead : ∀ task ∈ tasks, task.Owns

/-- The next action of a flush is its own account's, like the others behind it. -/
theorem Flush.owns_advance (owns : work.Owns work.behind) : work.advance.Owns := by
  -- The actions behind are the flush's as those ahead of it were.
  unfold Flush.advance
  cases behind : work.behind with
  | nil => trivial
  | cons next rest =>
    rw [behind] at owns
    exact owns

/-- A failure sends nothing, and leaves only the account's own work ahead. -/
theorem Flush.owns_caught (owns : work.Owns work.behind) (error : AppError) :
    (work.caught phone error).1.history.log = phone.history.log ∧ (work.caught phone error).2.Owns := by
  -- Kept back, the flush stops; refused, it goes on to the next.
  rcases work.caught_cases phone error with ⟨-, same⟩ | ⟨-, refusal, -, -, same⟩
  · rw [same]
    exact ⟨rfl, trivial⟩
  · rw [same]
    exact ⟨rfl, @owns_advance { work with rejected := work.rejected ++ [refusal] } owns⟩

/-- So does what follows an answer. -/
theorem Flush.owns_settled (owns : work.Owns work.behind) (result : Except AppError Unit) :
    (work.settled phone result).1.history.log = phone.history.log ∧ (work.settled phone result).2.Owns := by
  -- With a photo to delete it stays where it is, without one it goes on.
  cases result with
  | error error => exact owns_caught owns error
  | ok passed =>
    unfold Flush.settled
    simp only
    split
    · exact ⟨rfl, owns⟩
    · exact ⟨rfl, @owns_advance { work with flushed := work.flushed + 1 } owns⟩

/-- An action sent with a token of its own account is sent by its owner. -/
theorem SentByOwner.send {item : QueuedAction} (sent : SentByOwner phone)
    (own : item.owner = some token.account) : SentByOwner (phone.send item token reply) := by
  -- The log is what it was and one request more.
  intro other listed
  rcases List.mem_append.mp listed with old | new
  · exact sent other old
  · rw [List.mem_singleton.mp new]
    exact own

/-- What is written down of requests decides who sent what. -/
theorem SentByOwner.of_log {later : Phone} (sent : SentByOwner phone)
    (same : later.history.log = phone.history.log) : SentByOwner later := by
  -- It says something of the log alone.
  unfold SentByOwner
  rw [same]
  exact sent

/-- A request with a token of the account sends its own work, and finds its own refresh token. -/
theorem Flush.asked_owned {final : Prop} {next : Phone × FlushCall} (sent : SentByOwner phone)
    (owns : work.Owns (work.item :: work.behind)) (own : token.account = work.token.account)
    (asked : work.Asked phone token reply final next)
    (among : ¬ final → work.item.file = none → (phone.answered token reply).unauthorized = true →
      ∀ account ∈ phone.tokens.refreshToken, account = work.token.account) :
    SentByOwner next.1 ∧ next.2.Owns := by
  -- The rest of the queue is of the same account.
  have behind : work.Owns work.behind := fun item member => owns item (List.mem_cons_of_mem _ member)
  have sends : SentByOwner (phone.send work.item token (phone.answered token reply)) :=
    sent.send (own ▸ owns work.item List.mem_cons_self)
  cases asked with
  | unread =>
    obtain ⟨same, left⟩ := owns_caught behind _
    exact ⟨sent.of_log same, left⟩
  | unauthorized answered plain held asks =>
    exact ⟨sends, owns, among asks plain (by rw [answered]; rfl) _ held⟩
  | answered =>
    obtain ⟨same, left⟩ := owns_settled behind _
    exact ⟨sends.of_log same, left⟩
  | failed =>
    obtain ⟨same, left⟩ := owns_caught behind _
    exact ⟨sends.of_log same, left⟩

/-- A flush that finds only its own account's work sends only that. -/
theorem FlushCall.resume_owned {call : FlushCall} (sent : SentByOwner phone) (owns : call.Owns)
    (among : (Task.flush call).AmongOwn phone answer) :
    SentByOwner (call.resume phone answer).1 ∧ (call.resume phone answer).2.Owns := by
  cases call with
  | begin token =>
    simp only [FlushCall.resume]
    split <;> exact ⟨sent, trivial⟩
  | readQueue token =>
    simp only [FlushCall.resume]
    split
    · exact ⟨sent, trivial⟩
    · -- The flush takes what is stored, which is its own account's by assumption.
      rename_i item behind queued
      refine ⟨sent, fun other member => among other ?_⟩
      rw [queued]
      exact member
  | send work => exact Flush.asked_owned sent owns rfl Flush.asked_send fun _ => among
  | refresh work account =>
    -- The refresh token is of the account that the flush is for, so what is renewed is too.
    obtain ⟨owns, rfl⟩ := owns
    have behind : work.Owns work.behind := fun item member => owns item (List.mem_cons_of_mem _ member)
    simp only [FlushCall.resume, Flush.refreshed]
    split
    · exact ⟨sent, owns, rfl⟩
    · obtain ⟨same, left⟩ := @Flush.owns_caught { phone with tokens := {} } work behind
        { message := "Session expired. Please sign in again." }
      exact ⟨sent.of_log same, left⟩
    · obtain ⟨same, left⟩ := @Flush.owns_caught phone work behind
        { message := "Session expired. Please sign in again." }
      exact ⟨sent.of_log same, left⟩
  | resend work token =>
    exact Flush.asked_owned sent owns.1 owns.2 Flush.asked_resend fun never => absurd trivial never
  | deletePhoto work file =>
    simp only [FlushCall.resume]
    split
    · rename_i cleared deleted
      unfold Phone.delete at deleted
      split at deleted
      · cases deleted
        exact ⟨sent, @Flush.owns_advance { work with flushed := work.flushed + 1 } owns⟩
      · cases deleted
    · obtain ⟨same, left⟩ := @Flush.owns_caught phone work owns
        { message := "The file could not be deleted." }
      exact ⟨sent.of_log same, left⟩
  | writeQueue work remaining =>
    simp only [FlushCall.resume]
    split <;> exact ⟨sent, trivial⟩
  | readRejected | writeRejected | done => exact ⟨sent, trivial⟩

/-- A call that is no flush sends nothing. -/
theorem Task.resume_owned {task : Task} (sent : SentByOwner phone) (owns : task.Owns)
    (among : task.AmongOwn phone answer) :
    SentByOwner (task.resume phone answer).1 ∧ (task.resume phone answer).2.Owns := by
  -- Only a flush sends requests.
  cases task with
  | flush call => exact FlushCall.resume_owned sent owns among
  | enqueue call => cases call <;> exact ⟨sent, trivial⟩
  | retry call => cases call <;> exact ⟨sent, trivial⟩
  | discard call =>
    refine ⟨sent.of_log ?_, trivial⟩
    cases call with
    | readRejected id =>
      simp only [Task.resume, DiscardCall.resume]
      split <;> rfl
    | writeRejected | done => rfl
  | sweep call =>
    refine ⟨sent.of_log ?_, trivial⟩
    cases call with
    | readRejected now =>
      simp only [Task.resume, SweepCall.resume]
      split <;> rfl
    | writeRejected | done => rfl

/-- However calls interleave, work is sent by its owner while flushes find only their own account's. -/
theorem app_owned : app.Keeps Owned AmongOwn where
  perm := fun perm inv => ⟨inv.sent, fun task member => inv.ahead task (perm.mem_iff.mpr member)⟩
  resumes := by
    intro loop index answer task others found inv among
    obtain ⟨sent, owns⟩ := Task.resume_owned inv.sent (inv.ahead task List.mem_cons_self)
      (among task found)
    refine ⟨sent, fun other member => ?_⟩
    rcases List.mem_cons.mp member with rfl | old
    · exact owns
    · exact inv.ahead other (List.mem_cons_of_mem _ old)
  calls := by
    intro loop entry inv _
    refine ⟨inv.sent, fun task member => ?_⟩
    rcases List.mem_cons.mp member with rfl | old
    · cases entry <;> trivial
    · exact inv.ahead task old
  happens := by
    intro loop event inv _
    refine ⟨inv.sent.of_log ?_, inv.ahead⟩
    -- What happens to the phone outside its calls writes no log.
    cases event <;> rfl
  crashes := fun inv _ => ⟨inv.sent.of_log rfl, fun _ member => absurd member List.not_mem_nil⟩

/-- Work is sent under the session it was recorded in, in every run whose flushes find no one else's. -/
theorem sentByOwner_throughout (events : List (LoopEvent Entry Answer PhoneEvent))
    (among : Along app.step AmongOwn ⟨{}, []⟩ events) :
    Throughout app.step (fun loop => SentByOwner loop.shared) ⟨{}, []⟩ events := by
  -- On a phone just started the queue is no one's.
  have initial : Owned {} [] := by
    constructor
    all_goals exact fun _ member => absurd member List.not_mem_nil
  exact (app_owned.throughout initial among).mono fun _ inv => inv.sent

instance (phone : Phone) : Decidable (SentByOwner phone) :=
  inferInstanceAs (Decidable (∀ sent ∈ phone.history.log, _))

instance (phone : Phone) (answer : Answer) : (task : Task) → Decidable (task.AmongOwn phone answer)
  | .flush (.readQueue _) => inferInstanceAs (Decidable (∀ item ∈ phone.queue, _))
  | .flush (.send _) => inferInstanceAs (Decidable (_ → _ → ∀ account ∈ phone.tokens.refreshToken, _))
  | .flush (.begin _) | .flush (.refresh _ _) | .flush (.resend _ _) | .flush (.deletePhoto _ _)
  | .flush (.writeQueue _ _) | .flush (.readRejected _ _) | .flush (.writeRejected _ _ _)
  | .flush (.done _) | .enqueue _ | .retry _ | .discard _ | .sweep _ => .isTrue trivial

instance (loop : Loop Phone Task) : (event : LoopEvent Entry Answer PhoneEvent) →
    Decidable (AmongOwn loop event)
  | .resume index _ => inferInstanceAs (Decidable (∀ task ∈ loop.tasks[index]?, _))
  | .call _ | .outside _ | .crash => .isTrue trivial

/-- Alice signs in and queues a pickup. -/
def aliceQueues : List (LoopEvent Entry Answer PhoneEvent) :=
  [.outside (.signIn "Alice" { account := "Alice", expiresAt := 900 }),
    .call (.enqueueOfflineAction (.statusUpdate 1 "PICKED_UP")), .resume 0 {}, .resume 0 {}, .resume 0 {}]

/-- Whoever has signed in flushes the queue. -/
def flushedBy (account : String) : List (LoopEvent Entry Answer PhoneEvent) :=
  [.call (.flushOfflineQueue { account := account, expiresAt := 900 }),
    .resume 1 {}, .resume 1 {}, .resume 1 {}, .resume 1 {}]

/-- Bob signs in on the phone that Alice has signed out of. -/
def bobSignsIn : List (LoopEvent Entry Answer PhoneEvent) :=
  [.outside .signOut, .outside (.signIn "Bob" { account := "Bob", expiresAt := 900 })]

/-- Alice's work is sent by Alice. -/
theorem sentByOwner_alice :
    Throughout app.step (fun loop => SentByOwner loop.shared) ⟨{}, []⟩
      (aliceQueues ++ flushedBy "Alice" ++ bobSignsIn) :=
  sentByOwner_throughout _ (by decide +kernel)

/-- Left on the queue, it is sent by Bob. -/
theorem sent_by_bob :
    ¬ Throughout app.step (fun loop => SentByOwner loop.shared) ⟨{}, []⟩
      (aliceQueues ++ bobSignsIn ++ flushedBy "Bob") := by
  -- At the end the log has a request in Bob's session about an action that Alice recorded.
  intro throughout
  have sent := throughout.last
  revert sent
  decide +kernel

end Freight.Driver
