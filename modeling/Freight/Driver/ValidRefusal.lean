import Freight.Driver.Requests

/-! Only a refusal under a valid session rejects work, wherever no photo goes out with an expired token. -/

namespace Freight.Driver

variable {phone : Phone} {answer : Answer} {work : Flush} {token : AccessToken} {reply : Reply}

/-- An answer arrives. -/
def Reply.arrives : Reply → Bool
  | .response .. => true
  | .silent .. => false

/-- The server has answered, and has not taken what it was sent. -/
def Reply.refuses : Reply → Bool
  | .response status .. => !isSuccess status
  | .silent .. => false

/-- A request with an expired token is answered. -/
def Expired (phone : Phone) (token : AccessToken) (answer : Answer) : Prop :=
  token.expiresAt ≤ phone.now ∧ answer.reply.arrives = true

/-- An action that a step sets aside was refused in it, under a token that had not expired. -/
def RefusedInSession (phone later : Phone) : Prop :=
  ∀ entry, later.history.refused = phone.history.refused ++ [entry] →
    ∃ sent, later.history.log = phone.history.log ++ [sent] ∧ sent.item = entry.item ∧
      sent.expired = false ∧ sent.reply.refuses = true

/-- An expired token has a flush ask for a fresh one, or stop where it is when it cannot. -/
def Flush.renewing (work : Flush) (phone : Phone) : FlushCall :=
  match phone.tokens.refreshToken with
  | some account => .refresh work account
  | none => .writeQueue work (work.item :: work.behind)

/-- The action's request can be sent: it has no photo, or its photo is there. -/
def Flush.Sendable (work : Flush) (phone : Phone) : Prop := ∀ file ∈ work.item.file, file ∈ phone.files

/-- Whatever kind of action is sent with an expired token, a flush does the same about it. -/
def TreatedAlike (loop : Loop Phone Task) : LoopEvent Entry Answer PhoneEvent → Prop
  | .resume index answer => ∀ work, loop.tasks[index]? = some (.flush (.send work)) →
    work.Sendable loop.shared → Expired loop.shared work.token answer →
      ((FlushCall.send work).resume loop.shared answer).2 = work.renewing loop.shared
  | _ => True

/-- No photo goes out with an expired token, and no request goes out with one a second time. -/
def Task.InSession (phone : Phone) (answer : Answer) : Task → Prop
  | .flush (.send work) => work.Uploads phone → ¬ Expired phone work.token answer
  | .flush (.resend _ token) => ¬ Expired phone token answer
  | _ => True

/-- The token is one that has not expired wherever a 401 would be taken for a refusal. -/
def InSession (loop : Loop Phone Task) : LoopEvent Entry Answer PhoneEvent → Prop
  | .resume index answer => ∀ task ∈ loop.tasks[index]?, task.InSession loop.shared answer
  | _ => True

/-- An expired token is answered with 401. -/
theorem answered_expired (expired : Expired phone token answer) :
    phone.answered token answer.reply =
      .response 401 (some "AUTH_INVALID_TOKEN") "Session expired or invalid token." none := by
  -- An expired token is refused whatever else would have come, as long as anything comes.
  unfold Phone.answered
  rw [if_pos expired.1]
  cases arrived : answer.reply with
  | response => rfl
  | silent =>
    have arrives := expired.2
    rw [arrived] at arrives
    cases arrives

/-- Conversely, an answer to a request with an expired token is that one. -/
theorem expired_of_answered {status : Nat} {code : Option String} {message : String}
    {retryAfter : Option Nat} (late : token.expiresAt ≤ phone.now)
    (answered : phone.answered token answer.reply = .response status code message retryAfter) :
    status = 401 ∧ Expired phone token answer := by
  cases arrived : answer.reply with
  | response =>
    -- The token is late and an answer came, so the answer is the 401.
    have expired : Expired phone token answer := ⟨late, by rw [arrived]; rfl⟩
    rw [answered_expired expired] at answered
    cases answered
    exact ⟨rfl, expired⟩
  | silent =>
    unfold Phone.answered at answered
    rw [if_pos late, arrived] at answered
    cases answered

/-- A step that sets nothing aside. -/
theorem inSession_of_same {later : Phone} (same : later.history.refused = phone.history.refused) :
    RefusedInSession phone later := by
  -- Nothing is added, so there is no entry to answer for.
  intro entry added
  rw [same] at added
  exact absurd (congrArg List.length added) (by simp)

/-- A failure that can be retried sets nothing aside. -/
theorem refused_caught {error : AppError} (again : isRetryableFailure error = true) :
    (work.caught phone error).1.history.refused = phone.history.refused := by
  -- The catch block either stops the flush there, or has seen an error that never passes.
  rcases work.caught_cases phone error with ⟨-, same⟩ | ⟨never, -⟩
  · rw [same]
  · rw [again] at never
    cases never

/-- An action whose request is answered with an error is set aside for that answer. -/
theorem inSession_caught {error : AppError} (refuses : reply.refuses = true)
    (valid : phone.now < token.expiresAt) :
    RefusedInSession phone (work.caught (phone.send work.item token reply) error).1 := by
  -- What is set aside is this action, for the answer that was logged last.
  intro entry added
  rcases work.caught_cases (phone.send work.item token reply) error with
    ⟨-, same⟩ | ⟨-, refusal, -, own, same⟩
  · rw [same] at added
    exact absurd (congrArg List.length added) (by simp [Phone.send])
  · rw [same] at added ⊢
    have the_one : refusal = entry := by simpa [Phone.send] using added
    refine ⟨_, rfl, the_one ▸ own.symm, ?_, refuses⟩
    simpa [Sent.expired] using valid

/-- What a request sets aside was refused in session, unless a 401 is taken for a refusal. -/
theorem Flush.asked_inSession {final : Prop} {next : Phone × FlushCall}
    (asked : work.Asked phone token answer.reply final next)
    (valid : final → ¬ Expired phone token answer) : RefusedInSession phone next.1 := by
  cases asked with
  | unread again => exact inSession_of_same (refused_caught again)
  | unauthorized => exact inSession_of_same rfl
  | failed again => exact inSession_of_same (refused_caught again)
  | @answered status code message retryAfter result answered told taken =>
    cases result with
    | ok passed =>
      apply inSession_of_same
      unfold Flush.settled
      simp only
      split <;> rfl
    | error error =>
      apply inSession_caught
      · -- The server has refused the request, and said so.
        have not_ok := mt told.mpr (by simp)
        rw [answered]
        simpa [Reply.refuses] using not_ok
      · -- Had the token expired, the answer would have been the 401 that is ruled out.
        by_contra late
        obtain ⟨unauthorized, expired⟩ := expired_of_answered (Nat.not_lt.mp late) answered
        exact valid (taken unauthorized) expired

/-- A 401 that is taken for a refusal sets its action aside out of session. -/
theorem not_inSession_unauthorized {code : Option String} {message : String}
    (late : token.expiresAt ≤ phone.now) :
    ¬ RefusedInSession phone (work.settled (phone.send work.item token reply)
      (.error { status := some 401, code := code, message := message })).1 := by
  intro rightly
  change RefusedInSession phone (work.caught _ _).1 at rightly
  rcases work.caught_cases (phone.send work.item token reply)
      { status := some 401, code := code, message := message } with ⟨again, -⟩ | ⟨-, refusal, -, -, same⟩
  · simp [isRetryableFailure] at again
  · rw [same] at rightly
    obtain ⟨sent, logged, -, valid, -⟩ := rightly refusal rfl
    -- The only request in the log since is the one that was answered with 401.
    have the_one : ({ item := work.item, token := token, at_ := phone.now, reply := reply } : Sent) = sent := by
      simpa [Phone.send] using logged
    rw [← the_one] at valid
    simp [Sent.expired, late] at valid

/-- The rejections a flush holds, for a list that it is to write. -/
def FlushCall.lists : FlushCall → List RejectedDriverAction
  | .begin _ | .readQueue _ | .done _ => []
  | .send work | .refresh work _ | .resend work _ | .deletePhoto work _ | .writeQueue work _
  | .readRejected work _ => work.rejected
  | .writeRejected work _ stored => stored ++ work.rejected

/-- The rejections a call holds, for a list that it is to write. -/
def Task.lists : Task → List RejectedDriverAction
  | .retry (.readQueue list _) | .retry (.writeQueue list _ _) | .retry (.writeRejected list _)
  | .discard (.writeRejected list _) => list
  | .sweep (.writeRejected kept _) => kept
  | .flush call => call.lists
  | _ => []

/-- Every rejection that is stored, or held to be stored, is one a flush has set aside. -/
structure Listed (phone : Phone) (tasks : List Task) : Prop where
  stored : phone.rejected ⊆ phone.history.refused
  held : ∀ task ∈ tasks, task.lists ⊆ phone.history.refused

/-- A flush holds what it has set aside, wherever it goes next. -/
theorem Flush.lists_advance (work : Flush) : work.advance.lists = work.rejected := by
  -- Going on, it takes its list along.
  unfold Flush.advance
  split <;> rfl

/-- What one step of a call leaves stored and held. -/
structure Lists (phone : Phone) (next : Phone × Task) : Prop where
  grows : phone.history.refused ⊆ next.1.history.refused
  stored : next.1.rejected ⊆ next.1.history.refused
  held : next.2.lists ⊆ next.1.history.refused

section Steps

variable (stored : phone.rejected ⊆ phone.history.refused)

include stored

/-- The catch block holds what it sets aside. -/
theorem Flush.caught_lists (held : work.rejected ⊆ phone.history.refused) (error : AppError) :
    Lists phone ((work.caught phone error).map id .flush) := by
  -- Stopped, nothing is added; set aside, the refusal is in the history and in the flush's own list.
  rcases work.caught_cases phone error with ⟨-, same⟩ | ⟨-, refusal, -, -, same⟩
  · rw [same]
    exact ⟨List.Subset.refl _, stored, held⟩
  · rw [same]
    refine ⟨List.subset_append_left _ _, List.subset_append_of_subset_left _ stored, ?_⟩
    show (Flush.advance _).lists ⊆ _
    rw [Flush.lists_advance]
    exact List.append_subset.mpr
      ⟨List.subset_append_of_subset_left _ held, List.subset_append_right _ _⟩

/-- So does what follows a request. -/
theorem Flush.settled_lists (held : work.rejected ⊆ phone.history.refused)
    (result : Except AppError Unit) : Lists phone ((work.settled phone result).map id .flush) := by
  -- A success lists nothing: it leaves a photo to delete, or goes on.
  cases result with
  | error error => exact caught_lists stored held error
  | ok passed =>
    unfold Flush.settled
    simp only
    split
    · exact ⟨List.Subset.refl _, stored, held⟩
    · refine ⟨List.Subset.refl _, stored, ?_⟩
      show (Flush.advance _).lists ⊆ _
      rw [Flush.lists_advance]
      exact held

/-- And a request. -/
theorem Flush.asked_lists {final : Prop} {next : Phone × FlushCall}
    (held : work.rejected ⊆ phone.history.refused) (asked : work.Asked phone token reply final next) :
    Lists phone (next.map id .flush) := by
  -- The request itself is logged, which no list shows.
  cases asked with
  | unread => exact caught_lists stored held _
  | unauthorized => exact ⟨List.Subset.refl _, stored, held⟩
  | answered =>
    have lists := @settled_lists (phone.send work.item token (phone.answered token reply)) work stored held
    exact ⟨(lists _).grows, (lists _).stored, (lists _).held⟩
  | failed =>
    have lists := @caught_lists (phone.send work.item token (phone.answered token reply)) work stored held
    exact ⟨(lists _).grows, (lists _).stored, (lists _).held⟩

/-- Every step of a call stores and holds only what a flush has set aside. -/
theorem Task.resume_lists {task : Task} (held : task.lists ⊆ phone.history.refused) :
    Lists phone (task.resume phone answer) := by
  -- Most steps leave the stored list, and hold no more than they held.
  have still : ∀ {next : Task}, next.lists ⊆ phone.history.refused → Lists phone (phone, next) :=
    fun holds => ⟨List.Subset.refl _, stored, holds⟩
  cases task with
  | enqueue call =>
    cases call with
    | persist | readQueue | writeQueue | done =>
      exact ⟨List.Subset.refl _, stored, List.nil_subset _⟩
  | retry call =>
    cases call with
    | readRejected id =>
      simp only [Task.resume, RetryCall.resume]
      split
      · exact still (List.nil_subset _)
      · exact still stored
    | readQueue list entry | writeQueue list entry read =>
      exact ⟨List.Subset.refl _, stored, held⟩
    | writeRejected list entry =>
      exact ⟨List.Subset.refl _, fun other member => held (List.mem_filter.mp member).1,
        List.nil_subset _⟩
    | done => exact still held
  | discard call =>
    cases call with
    | readRejected id =>
      simp only [Task.resume, DiscardCall.resume]
      cases phone.rejected.find? fun entry => entry.id = id with
      | none => exact still (List.nil_subset _)
      | some entry =>
        -- Deleting a photo leaves the lists alone, whether it works or not.
        obtain ⟨files, same, -⟩ := deleteQuietly_eq phone answer.undeletable entry.item.file
        simp only [same]
        exact ⟨List.Subset.refl _, stored, stored⟩
    | writeRejected list entry =>
      exact ⟨List.Subset.refl _, fun other member => held (List.mem_filter.mp member).1,
        List.nil_subset _⟩
    | done => exact still held
  | sweep call =>
    cases call with
    | readRejected now =>
      simp only [Task.resume, SweepCall.resume]
      obtain ⟨files, same⟩ := deletedQuietly_eq phone answer.undeletable
        (phone.rejected.filter fun entry => entry.aged now)
      rw [same]
      split
      · exact still (List.nil_subset _)
      · exact ⟨List.Subset.refl _, stored, fun entry kept => stored (List.mem_filter.mp kept).1⟩
    | writeRejected kept swept => exact ⟨List.Subset.refl _, held, List.nil_subset _⟩
    | done => exact still held
  | flush call =>
    cases call with
    | begin token =>
      simp only [Task.resume, FlushCall.resume]
      split <;> exact ⟨List.Subset.refl _, stored, List.nil_subset _⟩
    | readQueue token =>
      simp only [Task.resume, FlushCall.resume]
      split <;> exact ⟨List.Subset.refl _, stored, List.nil_subset _⟩
    | send work => exact Flush.asked_lists stored held Flush.asked_send
    | resend work token => exact Flush.asked_lists stored held Flush.asked_resend
    | refresh work account =>
      simp only [Task.resume, FlushCall.resume, Flush.refreshed]
      split
      · exact ⟨List.Subset.refl _, stored, held⟩
      · have lists := @Flush.caught_lists { phone with tokens := {} } work stored held
        exact ⟨(lists _).grows, (lists _).stored, (lists _).held⟩
      · exact Flush.caught_lists stored held _
    | deletePhoto work file =>
      simp only [Task.resume, FlushCall.resume]
      split
      · rename_i cleared deleted
        unfold Phone.delete at deleted
        split at deleted
        · cases deleted
          refine ⟨List.Subset.refl _, stored, ?_⟩
          show (Flush.advance _).lists ⊆ _
          rw [Flush.lists_advance]
          exact held
        · cases deleted
      · exact Flush.caught_lists stored held _
    | writeQueue work remaining =>
      simp only [Task.resume, FlushCall.resume]
      split
      · exact ⟨List.Subset.refl _, stored, List.nil_subset _⟩
      · exact ⟨List.Subset.refl _, stored, held⟩
    | readRejected work remaining =>
      exact ⟨List.Subset.refl _, stored, List.append_subset.mpr ⟨stored, held⟩⟩
    | writeRejected work remaining read => exact ⟨List.Subset.refl _, held, List.nil_subset _⟩
    | done => exact still held

end Steps

/-- However calls interleave, only what a flush has set aside is stored or held to be stored. -/
theorem app_lists : app.Keeps Listed fun _ _ => True where
  perm := fun perm inv => ⟨inv.stored, fun task member => inv.held task (perm.mem_iff.mpr member)⟩
  resumes := by
    intro loop index answer task others _ inv _
    -- What the step holds was held or stored before, or was just refused.
    have lists := @Task.resume_lists _ answer inv.stored _ (inv.held task List.mem_cons_self)
    refine ⟨lists.stored, fun other member => ?_⟩
    rcases List.mem_cons.mp member with rfl | old
    · exact lists.held
    · exact List.Subset.trans (inv.held other (List.mem_cons_of_mem _ old)) lists.grows
  calls := by
    intro loop entry inv _
    refine ⟨inv.stored, fun task member => ?_⟩
    rcases List.mem_cons.mp member with rfl | old
    · cases entry <;> exact List.nil_subset _
    · exact inv.held task old
  happens := by
    intro loop event inv _
    cases event <;> exact ⟨inv.stored, inv.held⟩
  crashes := fun inv _ => ⟨inv.stored, fun _ member => absurd member List.not_mem_nil⟩

/-- A call sets actions aside in session exactly when its token is one that has not expired. -/
theorem Task.inSession_iff (task : Task) :
    RefusedInSession phone (task.resume phone answer).1 ↔ task.InSession phone answer := by
  -- Only a flush that makes a request has a condition to meet.
  have free : (task.resume phone answer).1.history.refused = phone.history.refused →
      task.InSession phone answer →
      (RefusedInSession phone (task.resume phone answer).1 ↔ task.InSession phone answer) :=
    fun same holds => iff_of_true (inSession_of_same same) holds
  cases task with
  -- The other calls make no request at all.
  | enqueue call => cases call <;> exact free rfl trivial
  | retry call => cases call <;> exact free rfl trivial
  | discard call =>
    refine free ?_ trivial
    cases call with
    | readRejected id =>
      simp only [Task.resume, DiscardCall.resume]
      split <;> rfl
    | writeRejected | done => rfl
  | sweep call =>
    refine free ?_ trivial
    cases call with
    | readRejected now =>
      simp only [Task.resume, SweepCall.resume]
      split <;> rfl
    | writeRejected | done => rfl
  | flush call =>
    cases call with
    | begin token =>
      refine free ?_ trivial
      simp only [Task.resume, FlushCall.resume]
      split <;> rfl
    | readQueue token =>
      refine free ?_ trivial
      simp only [Task.resume, FlushCall.resume]
      split <;> rfl
    -- A refused upload is not tried again with a new token, but set aside.
    | send work =>
      refine ⟨fun rightly => ?_, fun holds => Flush.asked_inSession Flush.asked_send holds⟩
      rintro ⟨file, its, there⟩ expired
      refine absurd rightly ?_
      have its : work.item.file = some file := its
      simp only [Task.resume, FlushCall.resume, its, Flush.upload]
      rw [if_pos (by simpa using there), answered_expired expired]
      exact not_inSession_unauthorized expired.1
    -- The second try is with a token that was given just now.
    | resend work token =>
      refine ⟨fun rightly => ?_, fun holds => Flush.asked_inSession Flush.asked_resend fun _ => holds⟩
      intro expired
      refine absurd rightly ?_
      simp only [Task.resume, FlushCall.resume, Flush.refetch]
      rw [answered_expired expired]
      exact not_inSession_unauthorized expired.1
    | refresh work account =>
      refine free ?_ trivial
      simp only [Task.resume, FlushCall.resume, Flush.refreshed]
      split <;> rfl
    | deletePhoto work file =>
      refine free ?_ trivial
      simp only [Task.resume, FlushCall.resume]
      split
      · rename_i cleared deleted
        unfold Phone.delete at deleted
        split at deleted
        · cases deleted
          rfl
        · cases deleted
      · rfl
    | writeQueue work remaining =>
      refine free ?_ trivial
      simp only [Task.resume, FlushCall.resume]
      split <;> rfl
    | readRejected | writeRejected | done => exact free rfl trivial

/-- `apiFetch` has an expired token renewed, or stops the flush where it is. -/
theorem Flush.fetch_expired (expired : Expired phone work.token answer) :
    (work.fetch phone answer.reply).2 = work.renewing phone := by
  -- The answer is a 401, so there is a refresh to be had or the flush stops.
  unfold Flush.fetch Flush.renewing
  rw [answered_expired expired]
  show (match phone.tokens.refreshToken with
    | some account => (_, FlushCall.refresh work account)
    | none => work.caught _ _).2 = _
  cases phone.tokens.refreshToken with
  | some account => rfl
  | none => rfl

/-- A step treats every kind alike and sets actions aside in session exactly when its token is valid. -/
theorem inSession_iff (loop : Loop Phone Task) (event : LoopEvent Entry Answer PhoneEvent) :
    RefusedInSession loop.shared (app.step loop event).shared ∧ TreatedAlike loop event ↔
      InSession loop event := by
  cases event with
  -- Nothing is refused by what begins, ends or happens outside.
  | call | crash => exact iff_of_true ⟨inSession_of_same rfl, trivial⟩ trivial
  | outside event =>
    refine iff_of_true ⟨inSession_of_same ?_, trivial⟩ trivial
    cases event <;> rfl
  | resume index answer =>
    cases found : loop.tasks[index]? with
    -- There is no such task, so nothing happens.
    | none =>
      have still : app.step loop (.resume index answer) = loop := by simp [EventLoop.step, found]
      rw [still]
      refine iff_of_true ⟨inSession_of_same rfl, fun work same => ?_⟩ fun task listed => ?_
      · rw [found] at same
        cases same
      · rw [found] at listed
        cases listed
    -- The task's own step decides.
    | some task =>
      have stepped : (app.step loop (.resume index answer)).shared = (task.resume loop.shared answer).1 := by
        simp only [EventLoop.step, found]
        rfl
      rw [stepped, task.inSession_iff]
      constructor
      · rintro ⟨valid, -⟩ other listed
        rw [← Option.some.inj (found.symm.trans listed)]
        exact valid
      · intro valid
        refine ⟨valid task found, fun work same sendable expired => ?_⟩
        have session : (Task.flush (.send work)).InSession loop.shared answer := valid _ same
        -- An upload is ruled out, and what is left goes through `apiFetch`.
        simp only [FlushCall.resume]
        split
        · rename_i file its
          exact absurd expired (session ⟨file, its, sendable file its⟩)
        · exact Flush.fetch_expired expired

/--
Only refusals in session reject work, exactly in the runs whose tokens are valid where it matters.

What is stored as rejected is what the flushes have set aside, in every run.
-/
theorem refusedInSession_iff (events : List (LoopEvent Entry Answer PhoneEvent)) :
    (Throughout app.step (fun loop => loop.shared.rejected ⊆ loop.shared.history.refused) ⟨{}, []⟩ events ∧
      Along app.step (fun loop event =>
        RefusedInSession loop.shared (app.step loop event).shared ∧ TreatedAlike loop event)
        ⟨{}, []⟩ events) ↔
      Along app.step InSession ⟨{}, []⟩ events := by
  -- A phone just started has set nothing aside; from there each event decides for itself.
  have initial : Listed {} [] := ⟨List.nil_subset _, fun _ member => absurd member List.not_mem_nil⟩
  refine @along_iff_of_invariant _ _ _ (fun loop => Listed loop.shared loop.tasks) _ _ _ ?_ ?_ ?_ _ _ initial
  · exact fun loop inv => inv.stored
  · exact fun loop event _ good _ => (inSession_iff loop event).mp good
  · exact fun loop event inv valid =>
      ⟨app_lists.step loop event inv trivial, (inSession_iff loop event).mpr valid⟩

/-- A driver signs in, and photographs a delivery; the token expires before the photo is flushed. -/
def flushedLate : List (LoopEvent Entry Answer PhoneEvent) :=
  [.outside (.signIn "Alice" { account := "Alice", expiresAt := 900 }),
    .call (.enqueueOfflineAction (.deliveryPhoto 1 "photo.jpg" "image/jpeg" none)),
    .resume 0 {}, .resume 0 {}, .resume 0 {}, .outside (.wait 900),
    .call (.flushOfflineQueue { account := "Alice", expiresAt := 900 }), .resume 1 {}, .resume 1 {}]

/-- The photo is rejected for the token it went out with, which no one has tried to renew. -/
theorem photo_rejected_late :
    ¬ (Throughout app.step (fun loop => loop.shared.rejected ⊆ loop.shared.history.refused) ⟨{}, []⟩
        (flushedLate ++ [.resume 1 {}]) ∧
      Along app.step (fun loop event =>
        RefusedInSession loop.shared (app.step loop event).shared ∧ TreatedAlike loop event)
        ⟨{}, []⟩ (flushedLate ++ [.resume 1 {}])) := by
  rintro ⟨-, along⟩
  obtain ⟨rightly, -⟩ := (along_append.mp along).2.1
  obtain ⟨sent, logged, -, valid, -⟩ := rightly
    { id := 1
      item := {
        serial := 0, owner := some "Alice"
        action := .deliveryPhoto 1 0 "photo.jpg" "image/jpeg" none 0 }
      reason := "AUTH_INVALID_TOKEN", message := "Session expired or invalid token."
      rejectedAt := some 900 } (by decide +kernel)
  -- The one request that was sent went out with an expired token.
  have late : (app.step (run app.step ⟨{}, []⟩ flushedLate) (.resume 1 {})).shared.history.log.map
      Sent.expired = [true] := by decide +kernel
  have none : (run app.step ⟨{}, []⟩ flushedLate).shared.history.log = [] := by decide +kernel
  rw [logged, none] at late
  simp [valid] at late

end Freight.Driver
