import Freight.Driver.Queue

/-! What can come of a request that a flush makes, said once for uploads and for `apiFetch`. -/

namespace Freight.Driver

/-- An answer that the server gave to a request it had accepted, and that never arrived. -/
def Reply.lost : Reply → Bool
  | .response .. => false
  | .silent accepted _ => accepted

/--
What can come of the request of an action, made with a token and met with a reply.

Where `final` holds, a 401 is an answer like any other; elsewhere it is asked about again.
-/
inductive Flush.Asked (work : Flush) (phone : Phone) (token : AccessToken) (reply : Reply) (final : Prop) :
    Phone × FlushCall → Prop where
  /-- The photo cannot be read, and nothing is sent. -/
  | unread {error : AppError} (again : isRetryableFailure error = true) :
    Asked work phone token reply final (work.caught phone error)
  /-- A 401 to a request by `apiFetch`, with a refresh token at hand. -/
  | unauthorized {code : Option String} {message : String} {retryAfter : Option Nat} {account : String}
    (answered : phone.answered token reply = .response 401 code message retryAfter)
    (plain : work.item.file = none) (held : phone.tokens.refreshToken = some account) (asks : ¬ final) :
    Asked work phone token reply final
      (phone.send work.item token (phone.answered token reply), .refresh work account)
  /-- Any other answer. -/
  | answered {status : Nat} {code : Option String} {message : String} {retryAfter : Option Nat}
    {result : Except AppError Unit}
    (answered : phone.answered token reply = .response status code message retryAfter)
    (told : result = .ok () ↔ isSuccess status = true) (taken : status = 401 → final) :
    Asked work phone token reply final
      (work.settled (phone.send work.item token (phone.answered token reply)) result)
  /-- No answer, or no session to ask again in: the action stays where it is. -/
  | failed {error : AppError} (again : isRetryableFailure error = true)
    (unheard : (phone.answered token reply).lost = (phone.answered token reply).accepted) :
    Asked work phone token reply final
      (work.caught (phone.send work.item token (phone.answered token reply)) error)

variable {phone : Phone} {answer : Answer} {work : Flush} {token : AccessToken} {reply : Reply}

/-- A request that fails without an answer is one to make again. -/
theorem retryable_fetchFailure (timedOut : Bool) : isRetryableFailure (fetchFailure timedOut) = true := by
  -- Neither of the two errors carries a status.
  cases timedOut <;> rfl

/-- The action's photo is there to be uploaded. -/
def Flush.Uploads (work : Flush) (phone : Phone) : Prop := ∃ file ∈ work.item.file, file ∈ phone.files

/-- What can come of an upload. -/
theorem Flush.asked_upload {file : Nat} (its : work.item.file = some file) :
    work.Asked phone work.token reply (work.Uploads phone) (work.upload phone file reply) := by
  -- The photo is there and something comes back, or nothing does; or the photo cannot be read.
  unfold Flush.upload
  split
  · rename_i there
    simp only
    split
    · rename_i status code message retryAfter answered
      exact .answered answered parseUploadResult_ok fun _ => ⟨file, its, by simpa using there⟩
    · rename_i accepted timedOut answered
      exact .failed rfl (by rw [answered]; rfl)
  · exact .unread rfl

/-- What can come of the first request by `apiFetch`. -/
theorem Flush.asked_fetch {final : Prop} (plain : work.item.file = none) (asks : ¬ final) :
    work.Asked phone work.token reply final (work.fetch phone reply) := by
  unfold Flush.fetch
  simp only
  split
  · rename_i status code message retryAfter answered
    split
    · rename_i unauthorized
      rw [unauthorized] at answered
      split
      · -- With a refresh token the 401 leads to a refresh, and the request is sent again.
        rename_i account held
        exact .unauthorized answered plain held asks
      · exact .failed rfl (by rw [answered]; rfl)
    · rename_i other
      exact .answered answered parseResponse_ok fun unauthorized => absurd unauthorized other
  · rename_i accepted timedOut answered
    exact .failed (retryable_fetchFailure timedOut) (by rw [answered]; rfl)

/-- What can come of the request of an action. -/
theorem Flush.asked_send : work.Asked phone work.token answer.reply (work.Uploads phone)
    ((FlushCall.send work).resume phone answer) := by
  -- With a file it is an upload, without one an ordinary request.
  simp only [FlushCall.resume]
  split
  · rename_i file its
    exact asked_upload its
  · rename_i plain
    refine asked_fetch plain ?_
    rintro ⟨file, its, -⟩
    rw [plain] at its
    cases its

/-- What can come of the same request once more, with a fresh token. -/
theorem Flush.asked_resend :
    work.Asked phone token answer.reply True ((FlushCall.resend work token).resume phone answer) := by
  -- Once more is the last time: what comes back counts, whatever it is.
  simp only [FlushCall.resume, Flush.refetch]
  split
  · rename_i status code message retryAfter answered
    exact .answered answered parseResponse_ok fun _ => trivial
  · rename_i accepted timedOut answered
    exact .failed (retryable_fetchFailure timedOut) (by rw [answered]; rfl)

/-- The catch block stops the flush where it is, or sets the action aside and goes on. -/
theorem Flush.caught_cases (work : Flush) (phone : Phone) (error : AppError) :
    (isRetryableFailure error = true ∧
      work.caught phone error = (phone, .writeQueue work (work.item :: work.behind))) ∨
    (isRetryableFailure error = false ∧ ∃ refusal : RejectedDriverAction,
      refusal.id = phone.serial ∧ refusal.item = work.item ∧
      work.caught phone error =
        ({ phone with
            serial := phone.serial + 1
            history := { phone.history with refused := phone.history.refused ++ [refusal] } },
          { work with rejected := work.rejected ++ [refusal] }.advance)) := by
  unfold Flush.caught
  -- A failure that may be retried leaves the action where it is.
  cases again : isRetryableFailure error with
  | true => exact .inl ⟨rfl, rfl⟩
  | false => exact .inr ⟨rfl, _, rfl, rfl, rfl⟩

end Freight.Driver
