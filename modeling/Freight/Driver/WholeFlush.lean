import Freight.Driver.Queue

/-! A flush from its start to its end with nothing else going on: what becomes of every action it has read. -/

namespace Freight.Driver

/-- What the requests of one action are answered with. -/
structure Exchange where
  reply : Reply
  refresh : RefreshReply := .failed
  /-- The answer to the request once it is sent again, with a fresh token. -/
  again : Reply := .silent false false

/-- The place in the queue of the action a flush is at. -/
def Flush.index (work : Flush) : Nat := work.read.length - (work.behind.length + 1)

/-- What a flush is answered with, action by action. No deletion throws. -/
def answerTo (exchange : Nat → Exchange) : FlushCall → Answer
  | .send work => { reply := (exchange work.index).reply }
  | .refresh work _ => { refresh := (exchange work.index).refresh }
  | .resend work _ => { reply := (exchange work.index).again }
  | _ => {}

/-- A flush runs to its next await, with nothing in between. -/
def alone (exchange : Nat → Exchange) (state : Phone × FlushCall) : Phone × FlushCall :=
  state.2.resume state.1 (answerTo exchange state.2)

/-- What comes of an action's turn. -/
inductive Outcome where
  | success
  | refusal
  | retryable
  deriving DecidableEq

/-- What the loop makes of a result. -/
def outcomeOf : Except AppError Unit → Outcome
  | .ok _ => .success
  | .error error => if isRetryableFailure error then .retryable else .refusal

/-- An action's turn: the requests that were sent for it, and what was returned or thrown. -/
structure Turn where
  item : QueuedAction
  requests : List Sent
  result : Except AppError Unit

/-- What comes of a turn. -/
def Turn.outcome (turn : Turn) : Outcome := outcomeOf turn.result

/-- What is made of a reply, if one arrives. -/
def Reply.result (reply : Reply) (parse : Nat → Option String → String → Option Nat → Except AppError Unit)
    (failure : Bool → AppError) : Except AppError Unit :=
  match reply with
  | .response status code message retryAfter => parse status code message retryAfter
  | .silent _ timedOut => .error (failure timedOut)

/-- A request as it is written down. -/
def Phone.request (phone : Phone) (item : QueuedAction) (token : AccessToken) (reply : Reply) : Sent :=
  { item := item, token := token, at_ := phone.now, reply := reply }

/-- The requests of an action, as the server answers them: the first, and the one that is sent again. -/
def Phone.requests (phone : Phone) (token fresh : AccessToken) (item : QueuedAction) (exchange : Exchange) :
    List Sent :=
  [phone.request item token (phone.answered token exchange.reply),
    phone.request item fresh (phone.answered fresh exchange.again)]

/-- The status the last request of a turn was answered with, if an answer to it arrived. -/
def Turn.lastStatus (turn : Turn) : Option Nat :=
  match turn.requests.getLast?.map Sent.reply with
  | some (.response status ..) => some status
  | _ => none

/-- The only request for an action without a photo was answered with 401, and the token was not renewed. -/
def Turn.sessionOver (turn : Turn) : Prop :=
  turn.item.file = none ∧ turn.requests.length = 1 ∧ turn.lastStatus = some 401

/-- An answer that asks for another try: a timeout, a rate limit, or a server in trouble. -/
def triesLater (status : Nat) : Prop := status = 0 ∨ status = 408 ∨ status = 429 ∨ 500 ≤ status

instance (status : Nat) : Decidable (triesLater status) :=
  inferInstanceAs (Decidable (_ ∨ _))

/-- `reportIncident` with a photo, or `confirmDelivery`, from start to end. -/
def upload (phone : Phone) (token : AccessToken) (item : QueuedAction) (file : Nat) (exchange : Exchange) :
    Phone × Turn :=
  if phone.files.contains file then
    let reply := phone.answered token exchange.reply
    (phone.send item token reply, {
      item := item, requests := [phone.request item token reply]
      result := reply.result (fun status code message _ => parseUploadResult status code message)
        fun _ => { message := "Network request failed (upload timed out)" } })
  -- Without its file the action makes no request.
  else (phone, { item := item, requests := [], result := .error { message := "The file could not be read." } })

/-- `apiFetch` for an action without a photo, from start to end. -/
def fetch (phone : Phone) (token : AccessToken) (item : QueuedAction) (exchange : Exchange) : Phone × Turn :=
  let expired : AppError := { message := "Session expired. Please sign in again." }
  let reply := phone.answered token exchange.reply
  let sent := phone.request item token reply
  let asked := phone.send item token reply
  match reply with
  | .response status code message retryAfter =>
    -- A 401 is answered by a refresh, where the store holds a token for one.
    if status = 401 then
      match phone.tokens.refreshToken with
      | none => (asked, { item := item, requests := [sent], result := .error expired })
      | some account =>
        match exchange.refresh with
        -- The request goes out again under the new token, and this answer is final.
        | .renewed expiresAt =>
          let fresh : AccessToken := { account := account, expiresAt := expiresAt }
          let renewed := asked.renewed fresh
          let again := renewed.answered fresh exchange.again
          (renewed.send item fresh again, {
            item := item, requests := [sent, renewed.request item fresh again]
            result := again.result parseResponse fetchFailure })
        | .refused =>
          ({ asked with tokens := {} }, { item := item, requests := [sent], result := .error expired })
        | .failed => (asked, { item := item, requests := [sent], result := .error expired })
    else (asked, { item := item, requests := [sent], result := parseResponse status code message retryAfter })
  | .silent _ timedOut =>
    (asked, { item := item, requests := [sent], result := .error (fetchFailure timedOut) })

/-- An action's request from start to end. -/
def attempt (phone : Phone) (token : AccessToken) (item : QueuedAction) (exchange : Exchange) : Phone × Turn :=
  match item.file with
  | some file => upload phone token item file exchange
  | none => fetch phone token item exchange

/-- The rejection that is kept of an action. -/
def Phone.refusal (phone : Phone) (item : QueuedAction) (error : AppError) : RejectedDriverAction where
  id := phone.serial
  item := item
  reason := error.code.getD ("HTTP " ++ (error.status.map toString).getD "unknown")
  message := error.message
  rejectedAt := some phone.now

/-- What a turn leaves behind on the phone. -/
def Phone.concluded (phone : Phone) (turn : Turn) : Phone :=
  match turn.result with
  -- The photo of an accepted action goes.
  | .ok _ => { phone with files := phone.files.filter fun file => turn.item.file ≠ some file }
  | .error error =>
    if isRetryableFailure error then phone
    else { phone with
      serial := phone.serial + 1
      history := { phone.history with refused := phone.history.refused ++ [phone.refusal turn.item error] } }

/-- The flush with a turn's result counted in. -/
def Flush.tallied (work : Flush) (phone : Phone) : Except AppError Unit → Flush
  | .ok _ => { work with flushed := work.flushed + 1 }
  | .error error =>
    if isRetryableFailure error then work
    else { work with rejected := work.rejected ++ [phone.refusal work.item error] }

/-- Where a turn leaves the flush. -/
def Flush.concluded (work : Flush) (phone : Phone) (result : Except AppError Unit) : FlushCall :=
  if outcomeOf result = .retryable then .writeQueue work (work.item :: work.behind)
  else (work.tallied phone result).advance

/-- The turns of a flush: one action after another, up to the first that may yet succeed. -/
def turns (exchange : Nat → Exchange) (token : AccessToken) : Nat → Phone → List QueuedAction → List Turn
  | _, _, [] => []
  | index, phone, item :: behind =>
    let tried := attempt phone token item (exchange index)
    tried.2 ::
      if tried.2.outcome = .retryable then []
      else turns exchange token (index + 1) (tried.1.concluded tried.2) behind

section
variable {exchange : Nat → Exchange} {phone after : Phone} {call next : FlushCall} {work : Flush}

/-- A flush that runs alone comes by a state. -/
def Reaches (exchange : Nat → Exchange) (state later : Phone × FlushCall) : Prop :=
  ∃ steps, (alone exchange)^[steps] state = later

/-- Where it begins, it is at once. -/
theorem Reaches.refl (state : Phone × FlushCall) : Reaches exchange state state := ⟨0, rfl⟩

/-- What is reached a step on is reached. -/
theorem Reaches.step {state later : Phone × FlushCall} (reached : Reaches exchange (alone exchange state) later) :
    Reaches exchange state later := by
  -- One step more, taken first.
  obtain ⟨steps, reached⟩ := reached
  exact ⟨steps + 1, reached⟩

/-- What is reached from there is reached. -/
theorem Reaches.trans {state middle later : Phone × FlushCall} (first : Reaches exchange state middle)
    (second : Reaches exchange middle later) : Reaches exchange state later := by
  -- The steps add up.
  obtain ⟨steps, rfl⟩ := first
  obtain ⟨more, rfl⟩ := second
  exact ⟨more + steps, Function.iterate_add_apply _ more steps state⟩

/-- Once a request has come back, its turn is concluded: the photo of an accepted upload is there to be deleted. -/
theorem settled_reaches (turn : Turn) (own : turn.item = work.item)
    (present : ∀ file, work.item.file = some file → turn.result = .ok () → file ∈ phone.files) :
    Reaches exchange (work.settled phone turn.result)
      (phone.concluded turn, work.concluded phone turn.result) := by
  unfold Flush.settled Phone.concluded Flush.concluded Flush.tallied
  rw [own]
  cases came : turn.result with
  | error error =>
    simp only [Flush.caught, outcomeOf]
    -- The item stays in the queue, or goes to the other list.
    by_cases retried : isRetryableFailure error = true
    · simp only [if_pos retried]
      exact Reaches.refl _
    · simp only [if_neg retried]
      exact Reaches.refl _
  | ok _ =>
    cases holds : work.item.file with
    | none =>
      -- Without a photo there is nothing to delete.
      have kept : phone.files.filter (fun file => decide ((none : Option Nat) ≠ some file)) = phone.files := by
        rw [List.filter_eq_self]
        intro file _
        rfl
      rw [kept]
      exact Reaches.refl _
    -- The photo is there, and its deletion is one step more.
    | some file =>
      have there : file ∈ phone.files := present file holds came
      refine Reaches.step ?_
      simp only [alone, answerTo, FlushCall.resume, Phone.delete, List.contains_iff_mem.mpr there,
        List.contains_nil, Bool.not_false, Bool.and_self, if_true]
      have same : phone.files.filter (fun other => decide (other ≠ file)) =
          phone.files.filter fun other => decide (some file ≠ some other) := by
        refine List.filter_congr fun other _ => ?_
        rw [decide_eq_decide, ne_comm, Ne, Ne, Option.some.injEq]
      rw [same]
      exact Reaches.refl _

/-- What a turn comes to is what the server has answered its last request with. -/
structure Turn.Truthful (turn : Turn) : Prop where
  /-- A success is an answer that says so. -/
  success : turn.outcome = .success ↔ ∃ status, turn.lastStatus = some status ∧ isSuccess status = true
  /-- A refusal is an answer that says neither that nor to try again, unless the session is over. -/
  refusal : turn.outcome = .refusal ↔ ∃ status, turn.lastStatus = some status ∧ isSuccess status = false ∧
    ¬ triesLater status ∧ ¬ turn.sessionOver

/-- Trying an action writes its requests down and may renew or clear the session; nothing stored is touched. -/
structure Tried (phone : Phone) (token : AccessToken) (item : QueuedAction) (answers : Exchange)
    (tried : Phone × Turn) : Prop where
  own : tried.2.item = item
  queue : tried.1.queue = phone.queue
  rejected : tried.1.rejected = phone.rejected
  files : tried.1.files = phone.files
  now : tried.1.now = phone.now
  log : tried.1.history.log = phone.history.log ++ tried.2.requests
  /-- Its requests are answered in turn, and at most one of them is accepted. -/
  requests : ∃ fresh, tried.2.requests <+: phone.requests token fresh item answers
  once : tried.2.requests.countP (fun request => request.reply.accepted) ≤ 1
  /-- A photo was there to be read when its action succeeds. -/
  present : ∀ file, item.file = some file → tried.2.result = .ok () → file ∈ phone.files
  truthful : tried.2.Truthful

/-- One request more or less is at most one that is accepted. -/
theorem countP_single (request : Sent) :
    [request].countP (fun request => request.reply.accepted) ≤ 1 :=
  List.countP_le_length

/-- What is thrown for a status is retried when the status asks for it. -/
theorem isRetryableFailure_status (status : Nat) (code : Option String) (message : String) :
    isRetryableFailure { status := some status, code := code, message := message } = true ↔ triesLater status := by
  -- Both are the same three tests of the status.
  simp only [isRetryableFailure, triesLater, Bool.or_eq_true, decide_eq_true_eq]
  omega

/-- What an answer comes to, by its status. -/
def outcomeAt (status : Nat) : Outcome :=
  if isSuccess status then .success else if triesLater status then .retryable else .refusal

/-- An upload comes to what its status says. -/
theorem outcomeOf_parseUploadResult (status : Nat) (code : Option String) (message : String) :
    outcomeOf (parseUploadResult status code message) = outcomeAt status := by
  -- Accepted it is a success; otherwise its status says whether it is to be retried.
  unfold parseUploadResult outcomeAt
  by_cases accepted : isSuccess status = true
  · rw [if_pos accepted, if_pos accepted]
    rfl
  · simp only [if_neg accepted, outcomeOf, isRetryableFailure_status]

/-- So does any other request: a rate limit is retried with its status or without it. -/
theorem outcomeOf_parseResponse (status : Nat) (code : Option String) (message : String)
    (retryAfter : Option Nat) :
    outcomeOf (parseResponse status code message retryAfter) = outcomeAt status := by
  unfold parseResponse outcomeAt
  by_cases accepted : isSuccess status = true
  · rw [if_pos accepted, if_pos accepted]
    rfl
  · rw [if_neg accepted, if_neg accepted]
    by_cases limited : status = 429 ∧ 0 < retryAfter.getD 0
    · -- The rate limit that names its wait is thrown without a status, which is retried too.
      have later : triesLater status := .inr (.inr (.inl limited.1))
      rw [if_pos limited, if_pos later]
      rfl
    · simp only [if_neg limited, outcomeOf, isRetryableFailure_status]

/-- A turn that comes to what its last answer says is truthful, with the session not over. -/
theorem truthful_of_answer {turn : Turn} (status : Nat) (last : turn.lastStatus = some status)
    (renewed : ¬ turn.sessionOver) (said : turn.outcome = outcomeAt status) : turn.Truthful := by
  unfold outcomeAt at said
  -- The status of the last answer is the only one to look for.
  have only : ∀ holds : Nat → Prop, (∃ status, turn.lastStatus = some status ∧ holds status) ↔ holds status := by
    intro holds
    rw [last]
    exact ⟨fun ⟨_, same, held⟩ => Option.some.inj same ▸ held, fun held => ⟨_, rfl, held⟩⟩
  constructor
  · rw [only, said]
    grind
  · rw [only, said]
    grind

/-- A turn that is to be retried is truthful when no answer came, or one that ends the session. -/
theorem truthful_of_retryable {turn : Turn} (retried : turn.outcome = .retryable)
    (unclear : turn.lastStatus = none ∨ turn.sessionOver) : turn.Truthful := by
  constructor
  · rw [retried]
    refine ⟨fun same => (by cases same), ?_⟩
    rintro ⟨status, last, accepted⟩
    -- A 401 is no success.
    rcases unclear with silent | ended
    · cases silent.symm.trans last
    · obtain rfl := Option.some.inj (ended.2.2.symm.trans last)
      cases accepted
  · rw [retried]
    refine ⟨fun same => (by cases same), ?_⟩
    rintro ⟨status, last, -, -, renewed⟩
    rcases unclear with silent | ended
    · cases silent.symm.trans last
    · exact absurd ended renewed

/-- An upload writes its one request down, if its photo is there to be sent. -/
theorem upload_tried (token : AccessToken) {item : QueuedAction} {file : Nat} (its : item.file = some file)
    (answers : Exchange) : Tried phone token item answers (upload phone token item file answers) := by
  unfold upload
  by_cases there : phone.files.contains file = true
  · -- One request is sent, with the photo.
    rw [if_pos there]
    refine ⟨rfl, rfl, rfl, rfl, rfl, rfl, ⟨token, _, rfl⟩, countP_single _, ?_, ?_⟩
    · intro other holds _
      rw [← Option.some.inj (its.symm.trans holds)]
      exact List.contains_iff_mem.mp there
    · -- An upload has a photo, so its 401 is no end of the session.
      have photo : item.file ≠ none := by rw [its]; exact Option.some_ne_none _
      simp only
      cases phone.answered token answers.reply with
      | response status code message retryAfter =>
        exact truthful_of_answer status rfl (fun ended => photo ended.1)
          (outcomeOf_parseUploadResult status code message)
      | silent accepted timedOut => exact truthful_of_retryable rfl (.inl rfl)
  · -- Nothing is sent without the photo.
    rw [if_neg there]
    refine ⟨rfl, rfl, rfl, rfl, rfl, (List.append_nil _).symm, ⟨token, List.nil_prefix⟩, Nat.zero_le _, ?_,
      truthful_of_retryable rfl (.inl rfl)⟩
    rintro other _ ⟨⟩

/-- A request that is sent again was not accepted the first time. -/
theorem fetch_tried (token : AccessToken) {item : QueuedAction} (bare : item.file = none)
    (answers : Exchange) : Tried phone token item answers (fetch phone token item answers) := by
  -- There is no photo that would have to be there.
  have present : ∀ result : Except AppError Unit, ∀ file, item.file = some file → result = .ok () →
      file ∈ phone.files := by
    intro _ file holds
    cases bare.symm.trans holds
  -- The first request is answered as the server answers it.
  have first : [phone.request item token (phone.answered token answers.reply)] <+:
      phone.requests token token item answers := ⟨_, rfl⟩
  unfold fetch
  simp only
  generalize answered : phone.answered token answers.reply = reply at first
  cases reply with
  | silent accepted timedOut =>
    refine ⟨rfl, rfl, rfl, rfl, rfl, rfl, ⟨token, first⟩, countP_single _, present _, ?_⟩
    refine truthful_of_retryable ?_ (.inl rfl)
    -- A timeout is thrown as a 408, anything else without a status.
    cases timedOut <;> rfl
  | response status code message retryAfter =>
    simp only
    by_cases unauthorised : status = 401
    · rw [if_pos unauthorised]
      subst unauthorised
      -- Without a refresh token the 401 is the answer.
      cases phone.tokens.refreshToken with
      | none =>
        exact ⟨rfl, rfl, rfl, rfl, rfl, rfl, ⟨token, first⟩, countP_single _, present _,
          truthful_of_retryable rfl (.inr ⟨bare, rfl, rfl⟩)⟩
      | some account =>
        -- Only a token that is renewed lets the request be sent again.
        cases answers.refresh with
        | refused =>
          exact ⟨rfl, rfl, rfl, rfl, rfl, rfl, ⟨token, first⟩, countP_single _, present _,
            truthful_of_retryable rfl (.inr ⟨bare, rfl, rfl⟩)⟩
        | failed =>
          exact ⟨rfl, rfl, rfl, rfl, rfl, rfl, ⟨token, first⟩, countP_single _, present _,
            truthful_of_retryable rfl (.inr ⟨bare, rfl, rfl⟩)⟩
        | renewed expiresAt =>
          refine ⟨rfl, rfl, rfl, rfl, rfl, ?_, ⟨{ account := account, expiresAt := expiresAt }, ?_⟩, ?_,
            present _, ?_⟩
          · simp only [Phone.send, Phone.renewed, Phone.request, List.append_assoc, List.singleton_append]
          · -- Both requests are sent, and time stands still between them.
            rw [Phone.requests, answered]
            exact List.prefix_rfl
          · -- The first of the two was answered with 401.
            rw [List.countP_cons]
            exact countP_single _
          · -- With two requests sent, the session is not over, and the second answer counts.
            simp only
            cases Phone.answered _ _ answers.again with
            | response status code message retryAfter =>
              refine truthful_of_answer status rfl ?_
                (outcomeOf_parseResponse status code message retryAfter)
              rintro ⟨-, single, -⟩
              cases single
            | silent accepted timedOut =>
              refine truthful_of_retryable ?_ (.inl rfl)
              cases timedOut <;> rfl
    · rw [if_neg unauthorised]
      refine ⟨rfl, rfl, rfl, rfl, rfl, rfl, ⟨token, first⟩, countP_single _, present _, ?_⟩
      refine truthful_of_answer status rfl ?_ (outcomeOf_parseResponse status code message retryAfter)
      rintro ⟨-, -, last⟩
      exact unauthorised (Option.some.inj last)

/-- Either way, only the requests and the session change. -/
theorem attempt_tried (token : AccessToken) (item : QueuedAction) (answers : Exchange) :
    Tried phone token item answers (attempt phone token item answers) := by
  -- With a file it is uploaded, and without one the action is sent.
  unfold attempt
  cases holds : item.file with
  | none => exact fetch_tried token holds answers
  | some file => exact upload_tried token holds answers

/-- From before its request to after its turn, an action takes as many awaits as its answers make it. -/
theorem turn_reaches (phone : Phone) (work : Flush) :
    Reaches exchange (phone, .send work)
      ((attempt phone work.token work.item (exchange work.index)).1.concluded
          (attempt phone work.token work.item (exchange work.index)).2,
        work.concluded (attempt phone work.token work.item (exchange work.index)).1
          (attempt phone work.token work.item (exchange work.index)).2.result) := by
  -- What the turn ends with is settled by its outcome, so only the way there remains.
  have tried : Tried phone work.token work.item (exchange work.index)
      (attempt phone work.token work.item (exchange work.index)) := attempt_tried _ _ _
  generalize attempted : attempt phone work.token work.item (exchange work.index) = result at tried ⊢
  refine Reaches.trans ?_ (settled_reaches result.2 tried.own
    (fun file holds came => tried.files ▸ tried.present file holds came))
  subst attempted
  -- The first await is for the answer to the request.
  refine Reaches.step ?_
  unfold attempt
  simp only [alone, answerTo, FlushCall.resume]
  cases holds : work.item.file with
  | some file =>
    simp only [upload, Flush.upload]
    by_cases there : phone.files.contains file = true
    · simp only [if_pos there]
      generalize phone.answered work.token (exchange work.index).reply = reply
      cases reply <;> exact Reaches.refl _
    · simp only [if_neg there]
      exact Reaches.refl _
  | none =>
    simp only [fetch, Flush.fetch]
    generalize phone.answered work.token (exchange work.index).reply = reply
    cases reply with
    | silent accepted timedOut => exact Reaches.refl _
    | response status code message retryAfter =>
      simp only
      by_cases unauthorised : status = 401
      · -- Being answered changes no token.
        have kept : ∀ reply, (phone.send work.item work.token reply).tokens = phone.tokens := fun _ => rfl
        simp only [if_pos unauthorised, kept]
        cases phone.tokens.refreshToken with
        | none => exact Reaches.refl _
        | some account =>
          refine Reaches.step ?_
          simp only [alone, answerTo, FlushCall.resume, Flush.refreshed]
          cases (exchange work.index).refresh with
          | refused => exact Reaches.refl _
          | failed => exact Reaches.refl _
          | renewed expiresAt =>
            refine Reaches.step ?_
            simp only [alone, answerTo, FlushCall.resume, Flush.refetch]
            generalize Phone.answered _ _ (exchange work.index).again = again
            cases again <;> exact Reaches.refl _
      · simp only [if_neg unauthorised]
        exact Reaches.refl _

end

/-- The turn is over for good: its action was sent, or refused. -/
def Turn.settled (turn : Turn) : Bool := turn.outcome ≠ .retryable

/-- The photo of an action that one of the turns has sent. -/
def sentPhoto (turns : List Turn) (file : Nat) : Bool :=
  turns.any fun turn => turn.outcome = .success ∧ turn.item.file = some file

/-- What becomes of a stored queue: the turns of a flush account for every action it held. -/
structure Partitioned (exchange : Nat → Exchange) (token : AccessToken) (phone : Phone) (turns : List Turn)
    (after : Phone) (result : FlushResult) : Prop where
  /-- A prefix of the queue is tried in order, each action once. -/
  tried : turns.map Turn.item <+: phone.queue
  /-- No request is sent but in a turn, for its own action; and no turn has more than one accepted. -/
  log : after.history.log = phone.history.log ++ turns.flatMap Turn.requests
  requests : ∀ turn ∈ turns, ∀ request ∈ turn.requests, request.item = turn.item
  /-- Every turn's requests are answered as the server answers those of the action at its place. -/
  answered : ∀ index turn, turns[index]? = some turn →
    ∃ fresh, turn.requests <+: phone.requests token fresh turn.item (exchange index)
  /-- A turn is a success, a refusal, or one to be retried, by the answer to its last request. -/
  truthful : ∀ turn ∈ turns, turn.Truthful
  once : ∀ turn ∈ turns, turn.requests.countP (fun request => request.reply.accepted) ≤ 1
  /-- The actions that were sent or refused are followed by those that remain. -/
  queue : phone.queue = (turns.filter Turn.settled).map Turn.item ++ after.queue
  /-- What remains starts at the first retryable failure, and is nothing where there is none. -/
  stops : ∀ turn, turns.find? (fun turn => !turn.settled) = some turn → after.queue.head? = some turn.item
  drains : turns.all Turn.settled = true → after.queue = []
  /-- The counts and the new rejections are of what was sent and refused, in order. -/
  flushed : result.flushed = turns.countP fun turn => turn.outcome = .success
  remaining : result.remaining = after.queue.length
  refused : result.rejected.map RejectedDriverAction.item =
    (turns.filter fun turn => turn.outcome = .refusal).map Turn.item
  /-- Earlier rejections are kept before the new ones. -/
  rejected : after.rejected = phone.rejected ++ result.rejected
  /-- The photos of the actions that were sent are deleted, and no others. -/
  files : after.files = phone.files.filter fun file => !sentPhoto turns file
  /-- The next flush may begin. -/
  idle : after.flushing = false

section
variable {exchange : Nat → Exchange} {token : AccessToken}

/-- A queue with an action at its head has that action's turn, and those behind it unless it is to be retried. -/
theorem turns_cons (index : Nat) (phone : Phone) (item : QueuedAction) (behind : List QueuedAction) :
    turns exchange token index phone (item :: behind) =
      (attempt phone token item (exchange index)).2 ::
        if (attempt phone token item (exchange index)).2.outcome = .retryable then []
        else turns exchange token (index + 1)
          ((attempt phone token item (exchange index)).1.concluded
            (attempt phone token item (exchange index)).2) behind := rfl

/-- Turns are of a prefix of the queue: what is settled comes first, and the first retryable failure ends it. -/
theorem turns_split (queue : List QueuedAction) (index : Nat) (phone : Phone) :
    ∃ remaining, queue = ((turns exchange token index phone queue).filter Turn.settled).map Turn.item ++ remaining ∧
      (turns exchange token index phone queue).map Turn.item <+: queue ∧
      (∀ turn, (turns exchange token index phone queue).find? (fun turn => !turn.settled) = some turn →
        remaining.head? = some turn.item) ∧
      ((turns exchange token index phone queue).all Turn.settled = true → remaining = []) := by
  induction queue generalizing index phone with
  | nil =>
    refine ⟨[], rfl, List.prefix_rfl, ?_, fun _ => rfl⟩
    intro turn found
    cases found
  | cons item behind ih =>
    have tried : Tried phone token item (exchange index) (attempt phone token item (exchange index)) :=
      attempt_tried _ _ _
    rw [turns_cons]
    generalize attempt phone token item (exchange index) = result at tried
    by_cases stopped : result.2.outcome = .retryable
    · -- The action that is to be retried remains, and everything behind it.
      have open_ : result.2.settled = false := by simp [Turn.settled, stopped]
      rw [if_pos stopped]
      refine ⟨item :: behind, ?_, ?_, ?_, ?_⟩
      · rw [List.filter_cons_of_neg (by simp [open_])]
        rfl
      · exact ⟨behind, by rw [List.map_singleton, tried.own, List.singleton_append]⟩
      · intro turn found
        rw [List.find?_cons_of_pos (by simp [open_])] at found
        rw [← Option.some.inj found, tried.own]
        rfl
      · intro drained
        rw [List.all_cons, open_, Bool.false_and] at drained
        cases drained
    · -- The action is settled, and the rest of the queue is split as the hypothesis says.
      have settles : result.2.settled = true := by simp [Turn.settled, stopped]
      rw [if_neg stopped]
      obtain ⟨remaining, split, first, found, drained⟩ := ih (index + 1) (result.1.concluded result.2)
      refine ⟨remaining, ?_, ?_, ?_, ?_⟩
      · rw [List.filter_cons_of_pos settles, List.map_cons, List.cons_append, ← split, tried.own]
      · rw [List.map_cons, tried.own]
        exact (List.prefix_cons_inj item).mpr first
      · intro turn listed
        rw [List.find?_cons_of_neg (by simp [settles])] at listed
        exact found turn listed
      · intro all
        rw [List.all_cons, Bool.and_eq_true] at all
        exact drained all.2

/-- Where the loop leaves the phone and the flush, once its turns are over. -/
structure Looped (phone : Phone) (work : Flush) (turns : List Turn) (after : Phone) (later : Flush) : Prop where
  log : after.history.log = phone.history.log ++ turns.flatMap Turn.requests
  rejected : after.rejected = phone.rejected
  files : after.files = phone.files.filter fun file => !sentPhoto turns file
  flushed : later.flushed = work.flushed + turns.countP fun turn => turn.outcome = .success
  refused : later.rejected.map RejectedDriverAction.item = work.rejected.map RejectedDriverAction.item ++
    (turns.filter fun turn => turn.outcome = .refusal).map Turn.item

/-- No turn at all leaves everything as it is. -/
theorem Looped.nil (phone : Phone) (work : Flush) : Looped phone work [] phone work where
  log := (List.append_nil _).symm
  rejected := rfl
  -- No photo is filtered out.
  files := (List.filter_eq_self.mpr fun _ _ => rfl).symm
  flushed := rfl
  refused := (List.append_nil _).symm

/-- One turn, and then the others. -/
theorem Looped.cons {phone between after : Phone} {work middle later : Flush} {turn : Turn} {rest : List Turn}
    (first : Looped phone work [turn] between middle) (others : Looped between middle rest after later) :
    Looped phone work (turn :: rest) after later where
  log := by
    simp only [others.log, first.log, List.flatMap_cons, List.flatMap_nil, List.append_nil, List.append_assoc]
  rejected := others.rejected.trans first.rejected
  files := by
    -- A photo is gone when either part has sent it.
    rw [others.files, first.files, List.filter_filter]
    refine List.filter_congr fun file _ => ?_
    simp only [sentPhoto, List.any_cons, List.any_nil, Bool.or_false, Bool.not_or]
    exact Bool.and_comm _ _
  flushed := by
    rw [others.flushed, first.flushed, Nat.add_assoc, ← List.countP_append, List.singleton_append]
  refused := by
    rw [others.refused, first.refused, List.append_assoc, ← List.map_append, ← List.filter_append,
      List.singleton_append]

/-- What a turn does to the phone and the flush is what its outcome says. -/
theorem Looped.single {phone : Phone} {work : Flush} {result : Phone × Turn}
    {token : AccessToken} {answers : Exchange} (tried : Tried phone token work.item answers result) :
    Looped phone work [result.2] (result.1.concluded result.2) (work.tallied result.1 result.2.result) := by
  unfold Phone.concluded Flush.tallied
  cases came : result.2.result with
  | ok value =>
    -- A success counts, and deletes its photo.
    have sent : result.2.outcome = .success := by rw [Turn.outcome, came]; rfl
    refine ⟨?_, tried.rejected, ?_, ?_, ?_⟩
    · simp only [tried.log, List.flatMap_singleton]
    · simp only [tried.files]
      refine List.filter_congr fun file _ => ?_
      simp [sentPhoto, sent]
    · rw [List.countP_singleton, if_pos (decide_eq_true sent)]
    · rw [List.filter_cons_of_neg (by simp [sent]), List.filter_nil, List.map_nil, List.append_nil]
  | error error =>
    by_cases retried : isRetryableFailure error = true
    · -- What is to be retried leaves everything as it is.
      have open_ : result.2.outcome = .retryable := by
        rw [Turn.outcome, came, outcomeOf, if_pos retried]
      simp only [if_pos retried]
      refine ⟨?_, tried.rejected, ?_, ?_, ?_⟩
      · rw [tried.log, List.flatMap_singleton]
      · rw [tried.files, List.filter_eq_self.mpr]
        intro file _
        simp [sentPhoto, open_]
      · rw [List.countP_singleton, if_neg (by simp [open_])]
        rfl
      · rw [List.filter_cons_of_neg (by simp [open_]), List.filter_nil, List.map_nil, List.append_nil]
    · -- What is refused goes to the rejections, and keeps its photo.
      have refused : result.2.outcome = .refusal := by
        rw [Turn.outcome, came, outcomeOf, if_neg retried]
      simp only [if_neg retried]
      refine ⟨?_, tried.rejected, ?_, ?_, ?_⟩
      · simp only [tried.log, List.flatMap_singleton]
      · simp only [tried.files]
        rw [List.filter_eq_self.mpr]
        intro file _
        simp [sentPhoto, refused]
      · rw [List.countP_singleton, if_neg (by simp [refused])]
        rfl
      · rw [List.filter_cons_of_pos (by simp [refused]), List.filter_nil, List.map_singleton, tried.own,
          List.map_append, List.map_singleton]
        rfl

/-- A result that is to be retried stops the flush where it is. -/
theorem concluded_of_retryable {work : Flush} {phone : Phone} {result : Except AppError Unit}
    (stopped : outcomeOf result = .retryable) :
    work.concluded phone result = .writeQueue (work.tallied phone result) (work.item :: work.behind) := by
  -- What is to be retried is counted nowhere.
  have kept : work.tallied phone result = work := by
    cases result with
    | ok value => cases stopped
    | error error =>
      by_cases retried : isRetryableFailure error = true
      · exact if_pos retried
      · rw [outcomeOf, if_neg retried] at stopped
        cases stopped
  rw [kept, Flush.concluded, if_pos stopped]

/-- Any other moves it along. -/
theorem concluded_of_settled {work : Flush} {phone : Phone} {result : Except AppError Unit}
    (over_ : ¬ outcomeOf result = .retryable) :
    work.concluded phone result = (work.tallied phone result).advance :=
  if_neg over_

/-- Counting a result in does not move the flush along. -/
theorem tallied_place (work : Flush) (phone : Phone) (result : Except AppError Unit) :
    (work.tallied phone result).token = work.token ∧ (work.tallied phone result).read = work.read ∧
      (work.tallied phone result).behind = work.behind := by
  -- A result touches the count of what was sent or the list of what was refused.
  unfold Flush.tallied
  cases result with
  | ok value => exact ⟨rfl, rfl, rfl⟩
  | error error =>
    by_cases retried : isRetryableFailure error = true
    · simp only [if_pos retried, and_self]
    · simp only [if_neg retried, and_self]

/-- The loop runs through the actions that are left, and stops where it should. -/
theorem send_reaches (behind : List QueuedAction) (index : Nat) (phone : Phone) (work : Flush)
    {queue : List QueuedAction} (whole : queue = work.item :: behind)
    (own : work.token = token) (left : work.behind = behind)
    (place : work.read.length = index + (behind.length + 1)) :
    ∃ after later remaining,
      Reaches exchange (phone, .send work) (after, .writeQueue later remaining) ∧
      Looped phone work (turns exchange token index phone queue) after later ∧
      queue = ((turns exchange token index phone queue).filter Turn.settled).map Turn.item ++ remaining := by
  subst whole
  induction behind generalizing index phone work with
  | nil =>
    have here : work.index = index := by rw [Flush.index, place, left]; omega
    have ran : Reaches exchange _ _ := turn_reaches phone work
    have tried : Tried phone token work.item (exchange index) (attempt phone token work.item (exchange index)) :=
      attempt_tried _ _ _
    rw [here, own] at ran
    rw [turns_cons]
    generalize attempt phone token work.item (exchange index) = result at ran tried ⊢
    have single := Looped.single tried
    by_cases stopped : result.2.outcome = .retryable
    · rw [concluded_of_retryable stopped, left] at ran
      rw [if_pos stopped, List.filter_cons_of_neg (by simp [Turn.settled, stopped])]
      exact ⟨_, _, _, ran, single, rfl⟩
    · -- Behind the last action, nothing remains.
      rw [concluded_of_settled stopped, Flush.advance, (tallied_place _ _ _).2.2, left] at ran
      rw [if_neg stopped, turns, List.filter_cons_of_pos (by simp [Turn.settled, stopped]), List.filter_nil,
        List.map_singleton, tried.own]
      exact ⟨_, _, _, ran, single, rfl⟩
  | cons next rest ih =>
    have here : work.index = index := by
      rw [Flush.index, place, left]
      exact Nat.add_sub_cancel _ _
    have ran : Reaches exchange _ _ := turn_reaches phone work
    have tried : Tried phone token work.item (exchange index) (attempt phone token work.item (exchange index)) :=
      attempt_tried _ _ _
    rw [here, own] at ran
    rw [turns_cons]
    generalize attempt phone token work.item (exchange index) = result at ran tried ⊢
    have single := Looped.single tried
    by_cases stopped : result.2.outcome = .retryable
    · rw [concluded_of_retryable stopped, left] at ran
      rw [if_pos stopped, List.filter_cons_of_neg (by simp [Turn.settled, stopped])]
      exact ⟨_, _, _, ran, single, rfl⟩
    · obtain ⟨sameToken, sameRead, sameBehind⟩ := tallied_place work result.1 result.2.result
      rw [concluded_of_settled stopped, Flush.advance, sameBehind, left] at ran
      rw [if_neg stopped, List.filter_cons_of_pos (by simp [Turn.settled, stopped]), List.map_cons, tried.own]
      -- The next action has its turns where this one leaves the phone and the flush.
      obtain ⟨after, later, remaining, reached, looped, split⟩ :=
        ih (index + 1) (result.1.concluded result.2)
          { work.tallied result.1 result.2.result with item := next, behind := rest } (sameToken.trans own) rfl
          (by simp only [sameRead, place, List.length_cons]; omega)
      refine ⟨after, later, remaining, ran.trans reached, ?_, ?_⟩
      · exact Looped.cons single ⟨looped.log, looped.rejected, looped.files, looped.flushed, looped.refused⟩
      · exact congrArg (work.item :: ·) split

/-- Concluding a turn takes no time. -/
theorem concluded_now (phone : Phone) (turn : Turn) : (phone.concluded turn).now = phone.now := by
  -- It deletes a photo or logs a refusal.
  unfold Phone.concluded
  cases turn.result with
  | ok value => rfl
  | error error =>
    simp only
    split <;> rfl

/-- A server answers the same at the same time. -/
theorem requests_congr {phone other : Phone} (same : other.now = phone.now) (token fresh : AccessToken)
    (item : QueuedAction) (answers : Exchange) :
    other.requests token fresh item answers = phone.requests token fresh item answers := by
  -- The requests are read off the time and the server.
  simp only [Phone.requests, Phone.request, Phone.answered, same]

/-- Requests of a turn are answered as those of its place in the queue. -/
theorem turns_answered (queue : List QueuedAction) (index : Nat) (phone : Phone) :
    ∀ place turn, (turns exchange token index phone queue)[place]? = some turn →
      ∃ fresh, turn.requests <+: phone.requests token fresh turn.item (exchange (index + place)) := by
  induction queue generalizing index phone with
  | nil =>
    intro place turn found
    cases found
  | cons item behind ih =>
    have tried : Tried phone token item (exchange index) (attempt phone token item (exchange index)) :=
      attempt_tried _ _ _
    rw [turns_cons]
    intro place turn found
    cases place with
    | zero =>
      obtain rfl := Option.some.inj found
      obtain ⟨fresh, sent⟩ := tried.requests
      rw [Nat.add_zero, tried.own]
      exact ⟨fresh, sent⟩
    | succ place =>
      rw [List.getElem?_cons_succ] at found
      split at found
      · cases found
      · -- The turns behind it find the clock where this one did.
        obtain ⟨fresh, sent⟩ := ih _ _ place turn found
        have still : ((attempt phone token item (exchange index)).1.concluded
            (attempt phone token item (exchange index)).2).now = phone.now :=
          (concluded_now _ _).trans tried.now
        rw [requests_congr still, Nat.add_right_comm, Nat.add_assoc] at sent
        exact ⟨fresh, sent⟩

/-- Requests of a turn are for its own action, no more than one of them is accepted, and its outcome is theirs. -/
theorem turns_requests (queue : List QueuedAction) (index : Nat) (phone : Phone) :
    ∀ turn ∈ turns exchange token index phone queue, (∀ request ∈ turn.requests, request.item = turn.item) ∧
      turn.requests.countP (fun request => request.reply.accepted) ≤ 1 ∧ turn.Truthful := by
  induction queue generalizing index phone with
  | nil =>
    intro turn listed
    cases listed
  | cons item behind ih =>
    have tried : Tried phone token item (exchange index) (attempt phone token item (exchange index)) :=
      attempt_tried _ _ _
    rw [turns_cons]
    intro turn listed
    -- A turn is the first one, or one behind it.
    rcases List.mem_cons.mp listed with rfl | later
    · obtain ⟨fresh, answered⟩ := tried.requests
      refine ⟨fun request sent => ?_, tried.once, tried.truthful⟩
      -- Both of the requests it may come to are for the action.
      have either : request ∈ phone.requests token fresh item (exchange index) := answered.subset sent
      rw [tried.own]
      rcases List.mem_cons.mp either with rfl | again
      · rfl
      · rw [List.mem_singleton.mp again]
        rfl
    · split at later
      · cases later
      · exact ih _ _ turn later

/-- With the loop over, what remains is stored, and the new rejections behind the earlier ones. -/
theorem writeQueue_reaches (phone : Phone) (work : Flush) (remaining : List QueuedAction) :
    ∃ after, Reaches exchange (phone, .writeQueue work remaining)
        (after, .done { flushed := work.flushed, remaining := remaining.length, rejected := work.rejected }) ∧
      after.queue = remaining ∧ after.rejected = phone.rejected ++ work.rejected ∧ after.files = phone.files ∧
      after.history.log = phone.history.log ∧ after.flushing = false := by
  by_cases none_ : work.rejected.isEmpty = true
  · -- Without a new rejection the stored ones are not read.
    have empty : work.rejected = [] := List.isEmpty_iff.mp none_
    refine ⟨{ phone with queue := remaining, flushing := false }, Reaches.step ?_, rfl, ?_, rfl, rfl, rfl⟩
    · simp only [alone, FlushCall.resume, empty, List.isEmpty_nil, if_true]
      exact Reaches.refl _
    · rw [empty, List.append_nil]
  · -- With new rejections, the stored list is read and then written, which are two more awaits.
    have reads : alone exchange (phone, .writeQueue work remaining) =
        ({ phone with queue := remaining }, .readRejected work remaining.length) := by
      simp only [alone, FlushCall.resume, if_neg none_]
    refine ⟨{ phone with
        queue := remaining, rejected := phone.rejected ++ work.rejected, flushing := false
        history := { phone.history with recorded := phone.history.recorded ++ work.rejected } },
      Reaches.step ?_, rfl, rfl, rfl, rfl, rfl⟩
    rw [reads]
    exact ⟨2, rfl⟩

/-- A flush on its own accounts for every action of the queue: those it tries are a prefix, up to the first that
may yet succeed; they are sent or kept as rejections, and what remains follows them. -/
theorem flush_partitions (phone : Phone) (free : phone.flushing = false) (token : AccessToken)
    (exchange : Nat → Exchange) :
    ∃ after result, Reaches exchange (phone, .begin token) (after, .done result) ∧
      Partitioned exchange token phone (turns exchange token 0 { phone with flushing := true } phone.queue) after result := by
  have begins : alone exchange (phone, .begin token) = ({ phone with flushing := true }, .readQueue token) := by
    simp only [alone, FlushCall.resume, free, Bool.false_eq_true, if_false]
  by_cases empty : phone.queue = []
  · -- There is nothing to do, and nothing is stored.
    refine ⟨{ phone with flushing := false }, { flushed := 0, remaining := 0, rejected := [] }, ?_, ?_⟩
    · have ends : alone exchange ({ phone with flushing := true }, .readQueue token) =
          ({ phone with flushing := false }, .done { flushed := 0, remaining := 0, rejected := [] }) := by
        simp only [alone, FlushCall.resume, empty]
      exact ⟨2, (congrArg (alone exchange) begins).trans ends⟩
    · have none_ : turns exchange token 0 { phone with flushing := true } phone.queue = [] := by
        rw [empty]
        rfl
      rw [none_]
      exact {
        tried := List.nil_prefix
        log := (List.append_nil _).symm
        requests := fun _ listed => by cases listed
        answered := fun _ _ found => by cases found
        truthful := fun _ listed => by cases listed
        once := fun _ listed => by cases listed
        queue := rfl
        stops := fun _ found => by cases found
        drains := fun _ => empty
        flushed := rfl
        remaining := (congrArg List.length empty).symm
        refused := rfl
        rejected := (List.append_nil _).symm
        files := (List.filter_eq_self.mpr fun _ _ => rfl).symm
        idle := rfl }
  · obtain ⟨item, behind, stored⟩ := List.exists_cons_of_ne_nil empty
    obtain ⟨looped, later, remaining, reached, loop, split⟩ := @send_reaches exchange token behind 0
      { phone with flushing := true }
      { token := token, read := phone.queue, item := item, behind := behind } _ stored rfl rfl
      ((congrArg List.length stored).trans (Nat.zero_add _).symm)
    obtain ⟨after, finished, queue, rejected, files, log, idle⟩ :=
      @writeQueue_reaches exchange looped later remaining
    obtain ⟨others, same, tried, stops, drains⟩ :=
      @turns_split exchange token phone.queue 0 { phone with flushing := true }
    -- Both lemmas name what remains, and it is the same.
    obtain rfl : remaining = others := List.append_cancel_left (split.symm.trans same)
    have sends : alone exchange ({ phone with flushing := true }, .readQueue token) =
        ({ phone with flushing := true },
          .send { token := token, read := phone.queue, item := item, behind := behind }) := by
      simp only [alone, FlushCall.resume, stored]
    have first : Reaches exchange (phone, .begin token) _ :=
      ⟨2, (congrArg (alone exchange) begins).trans sends⟩
    exact ⟨after, _, first.trans (reached.trans finished), {
        tried := tried
        log := log.trans loop.log
        requests := fun turn listed => (turns_requests _ _ _ turn listed).1
        answered := fun place turn found => by
          obtain ⟨fresh, sent⟩ := turns_answered _ _ _ place turn found
          rw [Nat.zero_add] at sent
          exact ⟨fresh, sent⟩
        truthful := fun turn listed => (turns_requests _ _ _ turn listed).2.2
        once := fun turn listed => (turns_requests _ _ _ turn listed).2.1
        queue := queue ▸ same
        stops := queue ▸ stops
        drains := queue ▸ drains
        flushed := loop.flushed.trans (Nat.zero_add _)
        remaining := congrArg List.length queue.symm
        refused := loop.refused.trans (List.nil_append _)
        rejected := by rw [rejected, loop.rejected]
        files := files.trans loop.files
        idle := idle }⟩

end

/-- A status the server has moved past, a delivery photo, and an incident, with an older rejection kept. -/
def threeQueued : Phone where
  queue := [
    { serial := 0, owner := some "driver1", action := .statusUpdate 7 "PICKED_UP" 0 },
    { serial := 1, owner := some "driver1", action := .deliveryPhoto 7 1 "proof.jpg" "image/jpeg" none 0 },
    { serial := 2, owner := some "driver1", action := .incidentReport {} (some 2) none none 0 }]
  rejected := [{
    id := 3, item := { serial := 4, owner := none, action := .statusUpdate 5 "DELIVERED" 0 }
    reason := "HTTP 403", message := "", rejectedAt := none }]
  files := [1, 2]
  serial := 5

/-- A refusal, an upload that is accepted, and one that gets no answer. -/
def mixedAnswers (index : Nat) : Exchange where
  reply :=
    match index with
    | 0 => .response 409 (some "ORDERS_STATUS_OUT_OF_SEQUENCE") "That step comes later." none
    | 1 => .response 200 none "" none
    | _ => .silent false true

/-- All three outcomes in one flush, and every action accounted for. -/
theorem threeQueued_partitions :
    (turns mixedAnswers { account := "driver1", expiresAt := 100 } 0 { threeQueued with flushing := true }
      threeQueued.queue).map Turn.outcome = [.refusal, .success, .retryable] ∧
    ∃ after result,
      Reaches mixedAnswers (threeQueued, .begin { account := "driver1", expiresAt := 100 }) (after, .done result) ∧
      Partitioned mixedAnswers { account := "driver1", expiresAt := 100 } threeQueued (turns mixedAnswers { account := "driver1", expiresAt := 100 } 0
        { threeQueued with flushing := true } threeQueued.queue) after result :=
  ⟨by decide +kernel, flush_partitions threeQueued rfl _ mixedAnswers⟩

end Freight.Driver
