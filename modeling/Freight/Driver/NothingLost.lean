import Freight.Driver.Requests

/-! The offline queue loses nothing, wherever no stored list is overwritten unseen. -/

namespace Freight.Driver

variable {phone later : Phone} {answer : Answer} {item : QueuedAction}

/--
Nothing that was enqueued is lost, and no rejection goes but by a retry or a dismissal.

What was enqueued is looked for while no call is in progress.
-/
structure NothingLost (loop : Loop Phone Task) : Prop where
  actions : Quiet loop.tasks → ∀ item ∈ loop.shared.history.enqueued,
    loop.shared.Accepted item ∨ item ∈ loop.shared.queue ∨
      (∃ entry ∈ loop.shared.rejected, entry.item = item) ∨
      ∃ entry ∈ loop.shared.history.dismissed, entry.item = item
  rejections : ∀ entry ∈ loop.shared.history.recorded, entry ∈ loop.shared.rejected ∨
    entry ∈ loop.shared.history.requeued ∨ entry ∈ loop.shared.history.dismissed

/-- A task about to write a stored list has read all that is in it. -/
def Task.HasRead (phone : Phone) : Task → Prop
  | .enqueue (.writeQueue read _) | .retry (.writeQueue _ _ read) => phone.queue ⊆ read
  | .flush (.writeQueue work _) => phone.queue ⊆ work.read
  | .retry (.writeRejected list _) | .discard (.writeRejected list _) => phone.rejected ⊆ list
  | .flush (.writeRejected _ _ stored) => phone.rejected ⊆ stored
  | _ => True

/-- No stored list is overwritten by a task that has not read all that is in it. -/
def NoneOverwritten (loop : Loop Phone Task) : LoopEvent Entry Answer PhoneEvent → Prop
  | .resume index _ => ∀ task ∈ loop.tasks[index]?, task.HasRead loop.shared
  | _ => True

/-- The driver's own doings: no process dies in the middle of a call, and the sweep does not run. -/
def DriverOnly (loop : Loop Phone Task) : LoopEvent Entry Answer PhoneEvent → Prop
  | .crash => Quiet loop.tasks
  | .call (.sweepAgedRejections _) => False
  | _ => True

instance (phone : Phone) (task : Task) : Decidable (task.HasRead phone) := by
  cases task with
  | enqueue call | retry call | discard call | sweep call | flush call =>
    cases call <;> first | exact .isTrue trivial | exact inferInstanceAs (Decidable ((_ : List _) ⊆ _))

instance (loop : Loop Phone Task) : (event : LoopEvent Entry Answer PhoneEvent) →
    Decidable (NoneOverwritten loop event)
  | .resume index _ => inferInstanceAs (Decidable (∀ task ∈ loop.tasks[index]?, _))
  | .call _ | .outside _ | .crash => .isTrue trivial

instance (loop : Loop Phone Task) : (event : LoopEvent Entry Answer PhoneEvent) →
    Decidable (DriverOnly loop event)
  | .crash => inferInstanceAs (Decidable (Quiet loop.tasks))
  | .call (.sweepAgedRejections _) => .isFalse not_false
  | .call (.enqueueOfflineAction _) | .call (.retryRejectedAction _) | .call (.discardRejectedAction _)
  | .call (.flushOfflineQueue _) | .resume _ _ | .outside _ => .isTrue trivial

/-- An action is safe: it needs no task to be remembered, and no rejection that is on its way out. -/
def Phone.Safe (phone : Phone) (item : QueuedAction) : Prop :=
  phone.Accepted item ∨ item ∈ phone.queue ∨
    (∃ entry ∈ phone.rejected, entry ∉ phone.history.requeued ∧ entry.item = item) ∨
    ∃ entry ∈ phone.history.dismissed, entry.item = item

/-- A task carries an action between two writes. -/
def Task.Carries (item : QueuedAction) : Task → Prop
  | .enqueue (.readQueue own) | .enqueue (.writeQueue _ own) => own = item
  | .flush (.readRejected work _) | .flush (.writeRejected work _ _) =>
    ∃ entry ∈ work.rejected, entry.item = item
  | _ => False

/-- A flush accounts for all it has read: what is ahead of it, what was accepted and what refused. -/
structure Flush.Sound (phone : Phone) (work : Flush) (ahead : List QueuedAction) : Prop where
  covers : ∀ item ∈ work.read, item ∈ ahead ∨ phone.Accepted item ∨
    ∃ entry ∈ work.rejected, entry.item = item
  refused : work.rejected ⊆ phone.history.refused
  unrecorded : ∀ entry ∈ work.rejected, entry ∉ phone.history.recorded

/-- What a flush relies on. -/
def FlushCall.Sound (phone : Phone) : FlushCall → Prop
  | .send work | .refresh work _ | .resend work _ => work.Sound phone (work.item :: work.behind)
  -- A photo is deleted only once its action has been accepted.
  | .deletePhoto work _ =>
    work.Sound phone (work.item :: work.behind) ∧ phone.Accepted work.item
  | .writeQueue work remaining => work.Sound phone remaining
  | .readRejected work _ => work.Sound phone work.read
  | .writeRejected work _ stored => work.Sound phone work.read ∧ stored ⊆ phone.history.recorded
  | .begin _ | .readQueue _ | .done _ => True

/-- A function that has returned carries nothing. -/
theorem Task.returned_carries (task : Task) (returned : task.returned = true)
    (carries : task.Carries item) : False := by
  -- Only what is under way carries anything.
  cases task with
  | enqueue call | flush call =>
    cases call with
    | done => cases carries
    | _ => cases returned
  | retry | discard | sweep => cases carries

/-- What a task relies on. -/
def Task.Sound (phone : Phone) : Task → Prop
  | .flush call => call.Sound phone
  | .retry (.readQueue list entry) | .retry (.writeQueue list entry _) =>
    list ⊆ phone.history.recorded ∧ entry ∈ list
  -- By now the entry is in the queue again.
  | .retry (.writeRejected list entry) =>
    list ⊆ phone.history.recorded ∧ entry ∈ list ∧ entry ∈ phone.history.requeued
  | .discard (.writeRejected list entry) =>
    list ⊆ phone.history.recorded ∧ entry ∈ list ∧ entry ∈ phone.history.dismissed
  -- No sweep runs among the driver's own doings.
  | .sweep (.readRejected _) | .sweep (.writeRejected _ _) => False
  | _ => True

/-- A flush in progress. -/
def Task.isFlush : Task → Bool
  | .flush (.begin _) | .flush (.done _) => false
  | .flush _ => true
  | _ => false

/-- Rejections are numbered apart, below the next serial. -/
structure Numbered (phone : Phone) : Prop where
  below : ∀ entry ∈ phone.history.refused, entry.id < phone.serial
  apart : ∀ entry ∈ phone.history.refused, ∀ other ∈ phone.history.refused,
    entry.id = other.id → entry = other

/-- What every step keeps while no stored list is overwritten unseen. -/
structure Remembered (phone : Phone) (tasks : List Task) : Prop where
  numbered : Numbered phone
  recorded : phone.history.recorded ⊆ phone.history.refused
  stored : phone.rejected ⊆ phone.history.recorded
  requeued : phone.history.requeued ⊆ phone.history.recorded
  one : (tasks.filter Task.isFlush).length ≤ 1
  idle : phone.flushing = false → tasks.filter Task.isFlush = []
  sound : ∀ task ∈ tasks, task.Sound phone
  actions : ∀ item ∈ phone.history.enqueued, phone.Safe item ∨ ∃ task ∈ tasks, task.Carries item
  rejections : ∀ entry ∈ phone.history.recorded, entry ∈ phone.rejected ∨
    entry ∈ phone.history.requeued ∨ entry ∈ phone.history.dismissed

/-- What is written down is never struck out. -/
structure Grows (phone later : Phone) : Prop where
  log : phone.history.log ⊆ later.history.log
  refused : phone.history.refused ⊆ later.history.refused
  recorded : phone.history.recorded ⊆ later.history.recorded
  requeued : phone.history.requeued ⊆ later.history.requeued
  dismissed : phone.history.dismissed ⊆ later.history.dismissed

/-- What was accepted stays accepted. -/
theorem Phone.Accepted.grows (accepted : phone.Accepted item) (grows : Grows phone later) :
    later.Accepted item := by
  -- The request that was accepted is still on the log.
  obtain ⟨sent, listed, same, ok⟩ := accepted
  exact ⟨sent, grows.log listed, same, ok⟩

/-- A flush goes on accounting for what it has read while nothing is stored in its place. -/
theorem Flush.Sound.grows {work : Flush} {ahead : List QueuedAction} (sound : work.Sound phone ahead)
    (grows : Grows phone later) (unstored : later.history.recorded = phone.history.recorded) :
    work.Sound later ahead where
  -- The log and the refusals only grow, and no list was stored.
  covers := fun item member => (sound.covers item member).imp_right
    (Or.imp_left fun accepted => accepted.grows grows)
  refused := List.Subset.trans sound.refused grows.refused
  unrecorded := by
    rw [unstored]
    exact sound.unrecorded

/-- What a flush relies on goes on holding while nothing is stored in its place. -/
theorem FlushCall.Sound.grows {call : FlushCall} (sound : call.Sound phone) (grows : Grows phone later)
    (unstored : later.history.recorded = phone.history.recorded) : call.Sound later := by
  -- Each thing relied on is an inclusion, and what it is included in has only grown.
  cases call with
  | begin | readQueue | done => trivial
  | send work | refresh work account | resend work token =>
    exact Flush.Sound.grows sound grows unstored
  | writeQueue work remaining => exact Flush.Sound.grows sound grows unstored
  | readRejected work remaining => exact Flush.Sound.grows sound grows unstored
  | deletePhoto work file => exact ⟨sound.1.grows grows unstored, sound.2.grows grows⟩
  | writeRejected work remaining stored =>
    exact ⟨sound.1.grows grows unstored, List.Subset.trans sound.2 grows.recorded⟩

/-- What a task relies on goes on holding, as long as nothing is stored while it is a flush. -/
theorem Task.Sound.grows {task : Task} (sound : task.Sound phone) (grows : Grows phone later)
    (unstored : task.isFlush = true → later.history.recorded = phone.history.recorded) :
    task.Sound later := by
  cases task with
  | enqueue => trivial
  | flush call =>
    -- A flush relies on the lists as it has read them, so they must not be stored over under it.
    have flies : FlushCall.Sound phone call := sound
    cases call with
    | begin | done => trivial
    | _ => exact flies.grows grows (unstored rfl)
  | retry call =>
    cases call with
    | readRejected | done => trivial
    | readQueue list entry | writeQueue list entry read =>
      exact ⟨List.Subset.trans sound.1 grows.recorded, sound.2⟩
    | writeRejected list entry =>
      -- The others rely on the history alone, which only grows.
      exact ⟨List.Subset.trans sound.1 grows.recorded, sound.2.1, grows.requeued sound.2.2⟩
  | discard call =>
    cases call with
    | readRejected | done => trivial
    | writeRejected list entry =>
      exact ⟨List.Subset.trans sound.1 grows.recorded, sound.2.1, grows.dismissed sound.2.2⟩
  | sweep call =>
    cases call with
    | done => trivial
    | _ => exact sound

/-- A step that writes no stored list, and only adds to what is written down of requests. -/
structure Leaves (phone later : Phone) : Prop extends Grows phone later where
  queue : later.queue = phone.queue
  rejected : later.rejected = phone.rejected
  flushing : later.flushing = phone.flushing
  enqueued : later.history.enqueued = phone.history.enqueued
  records : later.history.recorded = phone.history.recorded
  requeues : later.history.requeued = phone.history.requeued
  dismisses : later.history.dismissed = phone.history.dismissed
  numbered : Numbered phone → Numbered later

/-- Nothing happens. -/
theorem Leaves.refl (phone : Phone) : Leaves phone phone := by
  -- Every list is part of itself.
  constructor
  · exact ⟨List.Subset.refl _, List.Subset.refl _, List.Subset.refl _, List.Subset.refl _, List.Subset.refl _⟩
  · rfl
  · rfl
  · rfl
  · rfl
  · rfl
  · rfl
  · rfl
  · exact id

/-- One such step after another is one. -/
theorem Leaves.trans {last : Phone} (first : Leaves phone later) (second : Leaves later last) :
    Leaves phone last where
  -- What only grows is composed forwards, and what stays is equal throughout.
  log := List.Subset.trans first.log second.log
  refused := List.Subset.trans first.refused second.refused
  recorded := List.Subset.trans first.toGrows.recorded second.toGrows.recorded
  requeued := List.Subset.trans first.requeued second.requeued
  dismissed := List.Subset.trans first.dismissed second.dismissed
  queue := second.queue.trans first.queue
  rejected := second.rejected.trans first.rejected
  flushing := second.flushing.trans first.flushing
  enqueued := second.enqueued.trans first.enqueued
  records := second.records.trans first.records
  requeues := second.requeues.trans first.requeues
  dismisses := second.dismisses.trans first.dismisses
  numbered := fun apart => second.numbered (first.numbered apart)

/-- Sending a request only adds to the log. -/
theorem leaves_send (phone : Phone) (item : QueuedAction) (token : AccessToken) (reply : Reply) :
    Leaves phone (phone.send item token reply) where
  -- The history of accepted requests grows at its end.
  log := List.subset_append_left _ _
  refused := List.Subset.refl _
  recorded := List.Subset.refl _
  requeued := List.Subset.refl _
  dismissed := List.Subset.refl _
  queue := rfl
  rejected := rfl
  flushing := rfl
  enqueued := rfl
  records := rfl
  requeues := rfl
  dismisses := rfl
  numbered := fun apart => ⟨apart.below, apart.apart⟩

/-- The token store, the time and the photos are no part of what the queue keeps. -/
theorem leaves_beside (phone : Phone) (tokens : TokenSet) (now : Nat) (files : List Nat) :
    Leaves phone { phone with tokens := tokens, now := now, files := files } where
  -- Every list is the same as before.
  log := List.Subset.refl _
  refused := List.Subset.refl _
  recorded := List.Subset.refl _
  requeued := List.Subset.refl _
  dismissed := List.Subset.refl _
  queue := rfl
  rejected := rfl
  flushing := rfl
  enqueued := rfl
  records := rfl
  requeues := rfl
  dismisses := rfl
  numbered := fun apart => ⟨apart.below, apart.apart⟩

/-- A request that is sent is in the log. -/
theorem accepted_send {token : AccessToken} {reply : Reply} (ok : reply.accepted = true) :
    (phone.send item token reply).Accepted item :=
  ⟨_, List.mem_append_right _ List.mem_cons_self, rfl, ok⟩

/-- A step of a flush that leaves the stored lists alone, and what it goes on relying on. -/
structure Flush.Goes (phone : Phone) (next : Phone × FlushCall) : Prop where
  leaves : Leaves phone next.1
  sound : next.2.Sound next.1
  flying : (Task.flush next.2).isFlush = true

/-- A step after a request goes on from where the request left the phone. -/
theorem Flush.Goes.after {next : Phone × FlushCall} (first : Leaves phone later)
    (goes : Flush.Goes later next) : Flush.Goes phone next :=
  ⟨first.trans goes.leaves, goes.sound, goes.flying⟩

/-- A flush that accounts for all but what is behind it goes on to that. -/
theorem Flush.advance_sound {work : Flush} (sound : work.Sound phone work.behind) :
    work.advance.Sound phone ∧ (Task.flush work.advance).isFlush = true := by
  -- What is behind the flush becomes what is ahead of it.
  unfold Flush.advance
  cases behind : work.behind with
  | nil =>
    rw [behind] at sound
    exact ⟨sound, rfl⟩
  | cons next rest =>
    rw [behind] at sound
    exact ⟨⟨sound.covers, sound.refused, sound.unrecorded⟩, rfl⟩

/-- An action dealt with is behind the flush. -/
theorem Flush.Sound.behind {work : Flush} (sound : work.Sound phone (work.item :: work.behind))
    (accepted : phone.Accepted work.item) : work.Sound phone work.behind where
  -- It was the first of those ahead; the rest are behind it.
  covers := fun item member => by
    rcases sound.covers item member with ahead | dealt_with
    · rcases List.mem_cons.mp ahead with rfl | behind
      · exact .inr (.inl accepted)
      · exact .inl behind
    · exact .inr dealt_with
  refused := sound.refused
  unrecorded := sound.unrecorded

/-- The catch block keeps the action it is given, on the queue or among the refused. -/
theorem Flush.caught_goes {work : Flush} (sound : work.Sound phone (work.item :: work.behind))
    (numbered : Numbered phone) (recorded : phone.history.recorded ⊆ phone.history.refused)
    (error : AppError) : Flush.Goes phone (work.caught phone error) := by
  rcases work.caught_cases phone error with ⟨-, same⟩ | ⟨-, refusal, number, own, same⟩
  · rw [same]
    exact ⟨.refl phone, sound, rfl⟩
  · rw [same]
    -- The new rejection has a number that no other rejection has.
    have leaves : Leaves phone { phone with
        serial := phone.serial + 1
        history := { phone.history with refused := phone.history.refused ++ [refusal] } } := by
      refine {
        log := List.Subset.refl _, refused := List.subset_append_left _ _
        recorded := List.Subset.refl _, requeued := List.Subset.refl _, dismissed := List.Subset.refl _
        queue := rfl, rejected := rfl, flushing := rfl, enqueued := rfl, records := rfl
        requeues := rfl, dismisses := rfl, numbered := fun _ => ⟨fun entry listed => ?_, ?_⟩ }
      · rcases List.mem_append.mp listed with old | new
        · exact Nat.lt_succ_of_lt (numbered.below entry old)
        · rw [List.mem_singleton.mp new, number]
          exact Nat.lt_succ_self _
      · intro entry listed other also same_id
        rcases List.mem_append.mp listed with old | new <;> rcases List.mem_append.mp also with was | is_new
        · exact numbered.apart entry old other was same_id
        · rw [List.mem_singleton.mp is_new, number] at same_id
          exact absurd same_id (Nat.ne_of_lt (numbered.below entry old))
        · rw [List.mem_singleton.mp new, number] at same_id
          exact absurd same_id.symm (Nat.ne_of_lt (numbered.below other was))
        · rw [List.mem_singleton.mp new, List.mem_singleton.mp is_new]
    have sound' : Flush.Sound { phone with
        serial := phone.serial + 1
        history := { phone.history with refused := phone.history.refused ++ [refusal] } }
        { work with rejected := work.rejected ++ [refusal] } work.behind := by
      constructor
      · intro item member
        rcases sound.covers item member with ahead | accepted | ⟨entry, listed, its⟩
        · rcases List.mem_cons.mp ahead with rfl | behind
          · exact .inr (.inr ⟨refusal, List.mem_append_right _ List.mem_cons_self, own⟩)
          · exact .inl behind
        · exact .inr (.inl accepted)
        · exact .inr (.inr ⟨entry, List.mem_append_left _ listed, its⟩)
      · intro entry listed
        rcases List.mem_append.mp listed with old | new
        · exact List.mem_append_left _ (sound.refused old)
        · exact List.mem_append_right _ new
      · intro entry listed stored
        rcases List.mem_append.mp listed with old | new
        · exact sound.unrecorded entry old stored
        · -- Every stored rejection is numbered below the new one.
          have below := numbered.below entry (recorded stored)
          rw [List.mem_singleton.mp new, number] at below
          exact absurd below (Nat.lt_irrefl _)
    exact ⟨leaves, (Flush.advance_sound sound').1, (Flush.advance_sound sound').2⟩

/-- What follows a request keeps the action, unless the server has accepted it. -/
theorem Flush.settled_goes {work : Flush} (sound : work.Sound phone (work.item :: work.behind))
    (numbered : Numbered phone) (recorded : phone.history.recorded ⊆ phone.history.refused)
    {result : Except AppError Unit} (ok : result = .ok () → phone.Accepted work.item) :
    Flush.Goes phone (work.settled phone result) := by
  cases result with
  | error error => exact caught_goes sound numbered recorded error
  | ok passed =>
    have accepted := ok rfl
    unfold Flush.settled
    simp only
    split
    · -- A photo has to be deleted before the action is done with.
      exact ⟨.refl phone, ⟨sound, accepted⟩, rfl⟩
    · -- Without one the flush goes on with what is behind it.
      have dealt : Flush.Sound phone { work with flushed := work.flushed + 1 } work.behind := by
        have behind := sound.behind accepted
        exact ⟨behind.covers, behind.refused, behind.unrecorded⟩
      exact ⟨.refl phone, (advance_sound dealt).1, (advance_sound dealt).2⟩

section Requests

variable {work : Flush} (sound : work.Sound phone (work.item :: work.behind))
  (numbered : Numbered phone) (recorded : phone.history.recorded ⊆ phone.history.refused)

include sound numbered recorded

/-- A request that has been answered keeps the action, unless its answer is a success. -/
theorem Flush.answered_goes {token : AccessToken} {reply : Reply} {result : Except AppError Unit}
    (ok : result = .ok () → reply.accepted = true) :
    Flush.Goes phone (work.settled (phone.send work.item token reply) result) := by
  -- The log grows by the request; a success is then in it.
  have sent := leaves_send phone work.item token reply
  exact .after sent (settled_goes (sound.grows sent.toGrows sent.records) (sent.numbered numbered)
    recorded fun done => accepted_send (ok done))

/-- A request that was not answered keeps the action. -/
theorem Flush.unanswered_goes {token : AccessToken} {reply : Reply} {error : AppError} :
    Flush.Goes phone (work.caught (phone.send work.item token reply) error) := by
  -- The log grows by the request, and the catch block takes over.
  have sent := leaves_send phone work.item token reply
  exact .after sent
    (caught_goes (sound.grows sent.toGrows sent.records) (sent.numbered numbered) recorded error)

/-- A request keeps the action, unless the server has accepted it. -/
theorem Flush.asked_goes {token : AccessToken} {reply : Reply} {final : Prop} {next : Phone × FlushCall}
    (asked : work.Asked phone token reply final next) : Flush.Goes phone next := by
  -- By what became of the request: not made, refused for its token, answered, or never answered.
  cases asked with
  | unread => exact caught_goes sound numbered recorded _
  | unauthorized =>
    have sent := leaves_send phone work.item token (phone.answered token reply)
    exact ⟨sent, sound.grows sent.toGrows sent.records, rfl⟩
  | answered answered told =>
    refine answered_goes sound numbered recorded fun ok => ?_
    rw [answered]
    exact told.mp ok
  | failed => exact unanswered_goes sound numbered recorded

/-- The answer to a refresh leaves the action where it is. -/
theorem Flush.refreshed_goes (account : String) (reply : RefreshReply) :
    Flush.Goes phone (work.refreshed phone account reply) := by
  unfold Flush.refreshed
  cases reply with
  | renewed expiresAt =>
    have leaves := leaves_beside phone { phone.tokens with
      token := some { account := account, expiresAt := expiresAt }, refreshToken := some account }
      phone.now phone.files
    exact ⟨leaves, sound.grows leaves.toGrows leaves.records, rfl⟩
  | refused =>
    -- The session is over, so the token store is emptied, and the action stays on the queue.
    have leaves := leaves_beside phone {} phone.now phone.files
    exact .after leaves (caught_goes (sound.grows leaves.toGrows leaves.records)
      (leaves.numbered numbered) recorded _)
  | failed => exact caught_goes sound numbered recorded _

end Requests

/-- A flush on its way through the queue it has read. -/
def FlushCall.onItsWay : FlushCall → Bool
  | .send _ | .refresh _ _ | .resend _ _ | .deletePhoto _ _ => true
  | _ => false

/-- A deletion is no part of what the queue keeps. -/
theorem leaves_delete {undeletable : List Nat} {file : Nat}
    (deleted : phone.delete undeletable file = some later) : Leaves phone later := by
  -- It goes through, or it throws and there is no phone after it.
  unfold Phone.delete at deleted
  split at deleted
  · cases deleted
    exact leaves_beside phone phone.tokens phone.now _
  · cases deleted

/-- On its way, a flush leaves the stored lists alone, and loses sight of nothing. -/
theorem FlushCall.resume_goes {call : FlushCall} (sound : call.Sound phone)
    (on_its_way : call.onItsWay = true) (numbered : Numbered phone)
    (recorded : phone.history.recorded ⊆ phone.history.refused) :
    Flush.Goes phone (call.resume phone answer) := by
  cases call with
  | begin | readQueue | writeQueue | readRejected | writeRejected | done => cases on_its_way
  | send work => exact Flush.asked_goes sound numbered recorded Flush.asked_send
  | refresh work account => exact Flush.refreshed_goes sound numbered recorded _ _
  | resend work token => exact Flush.asked_goes sound numbered recorded Flush.asked_resend
  | deletePhoto work file =>
    simp only [FlushCall.resume]
    split
    · -- With the photo gone the action is dealt with.
      rename_i cleared deleted
      have leaves := leaves_delete deleted
      have behind := (sound.1.behind sound.2).grows leaves.toGrows leaves.records
      have dealt : Flush.Sound cleared { work with flushed := work.flushed + 1 } work.behind :=
        ⟨behind.covers, behind.refused, behind.unrecorded⟩
      exact ⟨leaves, (Flush.advance_sound dealt).1, (Flush.advance_sound dealt).2⟩
    · exact Flush.caught_goes sound.1 numbered recorded _

/-- What one task's step has to keep for all of it to be remembered. -/
structure Keeps (phone : Phone) (task : Task) (later : Phone) (next : Task) : Prop
    extends Grows phone later where
  numbered : Numbered later
  records : later.history.recorded ⊆ later.history.refused
  stored : later.rejected ⊆ later.history.recorded
  requeues : later.history.requeued ⊆ later.history.recorded
  /-- A flush goes on, begins while there is none, or ends. -/
  flushes : (next.isFlush = task.isFlush ∧ later.flushing = phone.flushing) ∨
    (phone.flushing = false ∧ later.flushing = true) ∨ (task.isFlush = true ∧ next.isFlush = false)
  unstored : task.isFlush = false → later.history.recorded = phone.history.recorded
  sound : next.Sound later
  added : ∀ item ∈ later.history.enqueued, item ∈ phone.history.enqueued ∨ next.Carries item
  keeps : ∀ item, phone.Safe item ∨ task.Carries item → later.Safe item ∨ next.Carries item
  rejections : ∀ entry ∈ later.history.recorded, entry ∈ later.rejected ∨
    entry ∈ later.history.requeued ∨ entry ∈ later.history.dismissed

/-- A step that keeps what it has to keeps all that is remembered. -/
theorem Remembered.step {task next : Task} {others : List Task}
    (inv : Remembered phone (task :: others)) (step : Keeps phone task later next) :
    Remembered later (next :: others) := by
  -- While one task is a flush, no other is.
  have alone : task.isFlush = true → others.filter Task.isFlush = [] := by
    intro flies
    have one := inv.one
    rw [List.filter_cons, if_pos flies, List.length_cons] at one
    exact List.length_eq_zero_iff.mp (by omega)
  have none_before : phone.flushing = false →
      task.isFlush = false ∧ others.filter Task.isFlush = [] := by
    intro resting
    have idle := inv.idle resting
    rw [List.filter_cons] at idle
    cases flies : task.isFlush with
    | false => exact ⟨rfl, by simpa [flies] using idle⟩
    | true => simp [flies] at idle
  refine ⟨step.numbered, step.records, step.stored, step.requeues, ?_, ?_, ?_, ?_, step.rejections⟩
  -- At most one task is a flush, before the step and after.
  · rw [List.filter_cons]
    rcases step.flushes with ⟨same, -⟩ | ⟨resting, -⟩ | ⟨flies, ends⟩
    · rw [same]
      by_cases flies : task.isFlush = true
      · simp [flies, alone flies]
      · have one := inv.one
        rw [List.filter_cons, if_neg flies] at one
        rwa [if_neg flies]
    · rw [(none_before resting).2]
      split <;> simp
    · rw [ends, alone flies]
      simp
  -- While the flag is down nobody is flushing.
  · intro resting
    rw [List.filter_cons]
    rcases step.flushes with ⟨same, flag⟩ | ⟨-, flag⟩ | ⟨flies, ends⟩
    · obtain ⟨still, none⟩ := none_before (flag ▸ resting)
      rw [same, still, none]
      simp
    · rw [flag] at resting
      cases resting
    · rw [ends, alone flies]
      simp
  -- What the tasks rely on, the one that moved and those beside it.
  · intro other member
    rcases List.mem_cons.mp member with rfl | old
    · exact step.sound
    · refine (inv.sound other (List.mem_cons_of_mem _ old)).grows step.toGrows fun flies => ?_
      refine step.unstored (Bool.eq_false_iff.mpr fun both => ?_)
      have listed := List.mem_filter.mpr ⟨old, flies⟩
      rw [alone both] at listed
      cases listed
  -- And every action is on a list, or is carried by a task.
  · intro item listed
    rcases step.added item listed with old | new
    · rcases inv.actions item old with safe | ⟨carrier, member, carries⟩
      · rcases step.keeps item (.inl safe) with safe | carries
        · exact .inl safe
        · exact .inr ⟨next, List.mem_cons_self, carries⟩
      · rcases List.mem_cons.mp member with rfl | other
        · rcases step.keeps item (.inr carries) with safe | carries
          · exact .inl safe
          · exact .inr ⟨next, List.mem_cons_self, carries⟩
        · exact .inr ⟨carrier, List.mem_cons_of_mem _ other, carries⟩
    · exact .inr ⟨next, List.mem_cons_self, new⟩

/-- What leaves the stored lists alone keeps every action safe. -/
theorem Phone.Safe.leaves (safe : phone.Safe item) (leaves : Leaves phone later) : later.Safe item := by
  -- Three of the lists are as they were, and the log has grown.
  unfold Phone.Safe at safe ⊢
  rw [leaves.queue, leaves.rejected, leaves.requeues, leaves.dismisses]
  exact safe.imp_left fun accepted => accepted.grows leaves.toGrows

/-- A step that leaves the stored lists alone keeps what it has to. -/
theorem Leaves.keeps {task next : Task} {others : List Task} (leaves : Leaves phone later)
    (inv : Remembered phone (task :: others)) (flushes : next.isFlush = task.isFlush)
    (sound : next.Sound later) (carries : ∀ item, task.Carries item → next.Carries item) :
    Keeps phone task later next where
  toGrows := leaves.toGrows
  numbered := leaves.numbered inv.numbered
  records := by
    rw [leaves.records]
    exact List.Subset.trans inv.recorded leaves.refused
  stored := by
    rw [leaves.rejected, leaves.records]
    exact inv.stored
  requeues := by
    rw [leaves.requeues, leaves.records]
    exact inv.requeued
  flushes := .inl ⟨flushes, leaves.flushing⟩
  unstored := fun _ => leaves.records
  sound := sound
  added := fun item listed => .inl (leaves.enqueued ▸ listed)
  keeps := by
    -- An action is safe where it was safe, or carried where it was carried.
    rintro item (safe | carried)
    · exact .inl (safe.leaves leaves)
    · exact .inr (carries item carried)
  rejections := by
    rw [leaves.rejected, leaves.records, leaves.requeues, leaves.dismisses]
    exact inv.rejections

/-- What leaves the stored lists alone keeps all that is remembered. -/
theorem Remembered.leaves {tasks : List Task} (inv : Remembered phone tasks)
    (leaves : Leaves phone later) : Remembered later tasks where
  numbered := leaves.numbered inv.numbered
  recorded := by
    rw [leaves.records]
    exact List.Subset.trans inv.recorded leaves.refused
  stored := by
    rw [leaves.rejected, leaves.records]
    exact inv.stored
  -- The three lists of the history are compared with the stored ones, which are as they were.
  requeued := by
    rw [leaves.requeues, leaves.records]
    exact inv.requeued
  one := inv.one
  idle := fun resting => inv.idle (leaves.flushing ▸ resting)
  sound := fun task member => (inv.sound task member).grows leaves.toGrows fun _ => leaves.records
  actions := fun item listed =>
    (inv.actions item (leaves.enqueued ▸ listed)).imp_left fun safe => safe.leaves leaves
  rejections := by
    rw [leaves.rejected, leaves.records, leaves.requeues, leaves.dismisses]
    exact inv.rejections

/-- Entries with one number are one entry. -/
theorem Remembered.same_entry {tasks : List Task} (inv : Remembered phone tasks)
    {entry other : RejectedDriverAction} (listed : entry ∈ phone.history.recorded)
    (also : other ∈ phone.history.recorded) (same : entry.id = other.id) : entry = other :=
  inv.numbered.apart entry (inv.recorded listed) other (inv.recorded also) same

/-- A step that writes nothing down strikes nothing out. -/
theorem grows_of_same (same : later.history = phone.history) : Grows phone later := by
  -- Each list is part of itself.
  constructor
  all_goals
    rw [same]
    exact List.Subset.refl _

/-- Enqueueing an action loses nothing, as long as it overwrites nothing unseen. -/
theorem enqueue_keeps {call : EnqueueCall} {others : List Task}
    (inv : Remembered phone (.enqueue call :: others)) (read : Task.HasRead phone (.enqueue call)) :
    Keeps phone (.enqueue call) (call.resume phone).1 (.enqueue (call.resume phone).2) := by
  cases call with
  | readQueue item | done =>
    exact (Leaves.refl phone).keeps inv rfl trivial fun _ carries => carries
  | persist draft =>
    refine {
      toGrows := ⟨List.Subset.refl _, List.Subset.refl _, List.Subset.refl _, List.Subset.refl _, List.Subset.refl _⟩
      numbered := ⟨fun entry listed => ?_, inv.numbered.apart⟩
      records := inv.recorded, stored := inv.stored, requeues := inv.requeued
      flushes := .inl ⟨rfl, rfl⟩, unstored := fun _ => rfl, sound := trivial, added := ?_
      keeps := ?_, rejections := inv.rejections }
    · exact Nat.lt_succ_of_lt (inv.numbered.below entry listed)
    · -- The one new action is carried by the call itself until it is written.
      intro item listed
      rcases List.mem_append.mp listed with old | new
      · exact .inl old
      · exact .inr (List.mem_singleton.mp new).symm
    · rintro item (safe | carried)
      · exact .inl safe
      · cases carried
  | writeQueue queue item =>
    refine {
      toGrows := grows_of_same rfl, numbered := ⟨inv.numbered.below, inv.numbered.apart⟩
      records := inv.recorded, stored := inv.stored, requeues := inv.requeued
      flushes := .inl ⟨rfl, rfl⟩, unstored := fun _ => rfl, sound := trivial
      added := fun _ listed => .inl listed, keeps := ?_, rejections := inv.rejections }
    rintro other (safe | carried)
    · -- What was on the queue has been read, and is written back.
      refine .inl (safe.imp_right (Or.imp_left fun queued => ?_))
      exact List.mem_append_left _ (read queued)
    · cases carried
      exact .inl (.inr (.inl (List.mem_append_right _ List.mem_cons_self)))

/-- Retrying a rejection loses nothing, as long as it overwrites nothing unseen. -/
theorem retry_keeps {call : RetryCall} {others : List Task}
    (inv : Remembered phone (.retry call :: others)) (read : Task.HasRead phone (.retry call)) :
    Keeps phone (.retry call) (call.resume phone).1 (.retry (call.resume phone).2) := by
  have sound := inv.sound _ List.mem_cons_self
  cases call with
  | done found => exact (Leaves.refl phone).keeps inv rfl trivial fun _ carries => carries
  | readQueue list entry =>
    exact (Leaves.refl phone).keeps inv rfl sound fun _ carries => by cases carries
  | readRejected id =>
    refine (Leaves.refl phone).keeps inv ?_ ?_ fun _ carries => by cases carries
    · simp only [RetryCall.resume]
      split <;> rfl
    · simp only [RetryCall.resume]
      split
      · trivial
      · rename_i entry found
        exact ⟨inv.stored, List.mem_of_find?_eq_some found⟩
  | writeQueue list entry queue =>
    refine {
      toGrows := ⟨List.Subset.refl _, List.Subset.refl _, List.Subset.refl _, List.subset_append_left _ _,
        List.Subset.refl _⟩
      numbered := ⟨inv.numbered.below, inv.numbered.apart⟩
      records := inv.recorded, stored := inv.stored, requeues := ?_
      flushes := .inl ⟨rfl, rfl⟩, unstored := fun _ => rfl
      sound := ⟨sound.1, sound.2, List.mem_append_right _ List.mem_cons_self⟩
      added := fun _ listed => .inl listed, keeps := ?_, rejections := ?_ }
    · intro other listed
      rcases List.mem_append.mp listed with old | new
      · exact inv.requeued old
      · rw [List.mem_singleton.mp new]
        exact sound.1 sound.2
    · rintro item (safe | carried)
      rcases safe with accepted | queued | ⟨other, stored, stays, own⟩ | dismissed
      · exact .inl (.inl accepted)
      · exact .inl (.inr (.inl (List.mem_append_left _ (read queued))))
      · -- The entry that is retried no longer counts, and its action is on the queue instead.
        by_cases same : other = entry
        · refine .inl (.inr (.inl (List.mem_append_right _ ?_)))
          rw [← own, same]
          exact List.mem_cons_self
        · refine .inl (.inr (.inr (.inl ⟨other, stored, fun requeued => ?_, own⟩)))
          rcases List.mem_append.mp requeued with old | new
          · exact stays old
          · exact same (List.mem_singleton.mp new)
      · exact .inl (.inr (.inr (.inr dismissed)))
      · cases carried
    · intro other listed
      exact (inv.rejections other listed).imp_right (Or.imp_left (List.mem_append_left _))
  | writeRejected list entry =>
    -- Whatever is not written back has the number of the entry that was requeued, so it is that entry.
    have kept : ∀ other ∈ phone.rejected, other ∈ list.filter (fun other => other.id ≠ entry.id) ∨
        other ∈ phone.history.requeued := by
      intro other stored
      by_cases same : other.id = entry.id
      · rw [inv.same_entry (inv.stored stored) (sound.1 sound.2.1) same]
        exact .inr sound.2.2
      · exact .inl (List.mem_filter.mpr ⟨read stored, by simpa using same⟩)
    refine {
      toGrows := grows_of_same rfl, numbered := ⟨inv.numbered.below, inv.numbered.apart⟩
      stored := fun other listed => sound.1 (List.mem_filter.mp listed).1
      records := inv.recorded, requeues := inv.requeued
      flushes := .inl ⟨rfl, rfl⟩, unstored := fun _ => rfl, sound := trivial
      added := fun _ listed => .inl listed, keeps := ?_, rejections := ?_ }
    · rintro item (safe | carried)
      · refine .inl (safe.imp_right (Or.imp_right (Or.imp_left ?_)))
        rintro ⟨other, stored, stays, own⟩
        exact ⟨other, (kept other stored).resolve_right stays, stays, own⟩
      · cases carried
    · intro other listed
      rcases inv.rejections other listed with stored | gone
      · exact (kept other stored).imp_right .inl
      · exact .inr gone

/-- A dismissal loses nothing but what it dismisses, as long as it overwrites nothing unseen. -/
theorem discard_keeps {call : DiscardCall} {others : List Task}
    (inv : Remembered phone (.discard call :: others)) (read : Task.HasRead phone (.discard call)) :
    Keeps phone (.discard call) (call.resume phone answer).1 (.discard (call.resume phone answer).2) := by
  have sound := inv.sound _ List.mem_cons_self
  cases call with
  | done found => exact (Leaves.refl phone).keeps inv rfl trivial fun _ carries => carries
  -- To read the list takes nothing from it; the file of the entry goes first.
  | readRejected id =>
    simp only [DiscardCall.resume]
    cases found : phone.rejected.find? fun entry => entry.id = id with
    | none => exact (Leaves.refl phone).keeps inv rfl trivial fun _ carries => by cases carries
    | some entry =>
      have listed := List.mem_of_find?_eq_some found
      obtain ⟨files, same, -⟩ := deleteQuietly_eq phone answer.undeletable entry.item.file
      simp only [same]
      refine {
        toGrows := ⟨List.Subset.refl _, List.Subset.refl _, List.Subset.refl _, List.Subset.refl _,
          List.subset_append_left _ _⟩
        numbered := ⟨inv.numbered.below, inv.numbered.apart⟩
        records := inv.recorded, stored := inv.stored, requeues := inv.requeued
        flushes := .inl ⟨rfl, rfl⟩, unstored := fun _ => rfl
        sound := ⟨inv.stored, listed, List.mem_append_right _ List.mem_cons_self⟩
        added := fun item enqueued => .inl enqueued, keeps := ?_, rejections := ?_ }
      -- An action stays safe on whichever list it was, the dismissed one as dismissed.
      · rintro item (safe | carried)
        · refine .inl (safe.imp_right (Or.imp_right (Or.imp_right ?_)))
          rintro ⟨other, dismissed, own⟩
          exact ⟨other, List.mem_append_left _ dismissed, own⟩
        · cases carried
      · intro other recorded
        exact (inv.rejections other recorded).imp_right
          (Or.imp_right (List.mem_append_left _))
  | writeRejected list entry =>
    -- Whatever is not written back has the number of the entry that was dismissed, so it is that entry.
    have kept : ∀ other ∈ phone.rejected, other ∈ list.filter (fun other => other.id ≠ entry.id) ∨
        other ∈ phone.history.dismissed := by
      intro other stored
      by_cases same : other.id = entry.id
      · rw [inv.same_entry (inv.stored stored) (sound.1 sound.2.1) same]
        exact .inr sound.2.2
      · exact .inl (List.mem_filter.mpr ⟨read stored, by simpa using same⟩)
    refine {
      toGrows := grows_of_same rfl, numbered := ⟨inv.numbered.below, inv.numbered.apart⟩
      stored := fun other listed => sound.1 (List.mem_filter.mp listed).1
      records := inv.recorded, requeues := inv.requeued
      flushes := .inl ⟨rfl, rfl⟩, unstored := fun _ => rfl, sound := trivial
      added := fun _ listed => .inl listed, keeps := ?_, rejections := ?_ }
    · rintro item (safe | carried)
      · rcases safe with accepted | queued | ⟨other, stored, stays, own⟩ | dismissed
        · exact .inl (.inl accepted)
        · exact .inl (.inr (.inl queued))
        · rcases kept other stored with still | gone
          · exact .inl (.inr (.inr (.inl ⟨other, still, stays, own⟩)))
          · exact .inl (.inr (.inr (.inr ⟨other, gone, own⟩)))
        · exact .inl (.inr (.inr (.inr dismissed)))
      · cases carried
    -- An entry that is gone from the list is the one that was dismissed.
    · intro other listed
      rcases inv.rejections other listed with stored | gone
      · exact (kept other stored).imp_right .inr
      · exact .inr gone

/-- Nothing is carried by a flush on its way. -/
theorem FlushCall.onItsWay_carries {call : FlushCall} (on_its_way : call.onItsWay = true)
    (carries : Task.Carries item (.flush call)) : False := by
  -- Between reading the queue and writing the lists it carries nothing.
  cases call with
  | send | refresh | resend | deletePhoto => cases carries
  | begin | readQueue | writeQueue | readRejected | writeRejected | done => cases on_its_way

/-- A flush begins, unless one is under way. -/
theorem flush_keeps_begin {token : AccessToken} {others : List Task}
    (inv : Remembered phone (.flush (.begin token) :: others)) :
    Keeps phone (.flush (.begin token)) ((FlushCall.begin token).resume phone answer).1
      (.flush ((FlushCall.begin token).resume phone answer).2) := by
  -- The flag is looked at and set in one turn of the loop.
  simp only [FlushCall.resume]
  split
  · exact (Leaves.refl phone).keeps inv rfl trivial fun _ carries => by cases carries
  · rename_i resting
    exact {
      toGrows := grows_of_same rfl, numbered := ⟨inv.numbered.below, inv.numbered.apart⟩
      records := inv.recorded, stored := inv.stored, requeues := inv.requeued
      flushes := .inr (.inl ⟨by simpa using resting, rfl⟩), unstored := fun _ => rfl
      sound := trivial, added := fun _ listed => .inl listed
      keeps := fun item => Or.imp_right fun carries => by cases carries
      rejections := inv.rejections }

/-- It reads the queue, and ends where there is nothing on it. -/
theorem flush_keeps_readQueue {token : AccessToken} {others : List Task}
    (inv : Remembered phone (.flush (.readQueue token) :: others)) :
    Keeps phone (.flush (.readQueue token)) ((FlushCall.readQueue token).resume phone answer).1
      (.flush ((FlushCall.readQueue token).resume phone answer).2) := by
  simp only [FlushCall.resume]
  split
  · exact {
      toGrows := grows_of_same rfl, numbered := ⟨inv.numbered.below, inv.numbered.apart⟩
      records := inv.recorded, stored := inv.stored, requeues := inv.requeued
      flushes := .inr (.inr ⟨rfl, rfl⟩), unstored := fun _ => rfl
      sound := trivial, added := fun _ listed => .inl listed
      keeps := fun item => Or.imp_right fun carries => by cases carries
      rejections := inv.rejections }
  · rename_i item behind queued
    refine (Leaves.refl phone).keeps inv rfl ?_ fun _ carries => by cases carries
    -- All that it has read is ahead of it.
    refine ⟨fun other member => .inl (queued ▸ member), fun _ none => ?_, fun _ none => ?_⟩
    all_goals cases none

/-- It writes the queue back: what is left out has been accepted, or is on its own list. -/
theorem flush_keeps_writeQueue {work : Flush} {remaining : List QueuedAction} {others : List Task}
    (inv : Remembered phone (.flush (.writeQueue work remaining) :: others)) (read : phone.queue ⊆ work.read) :
    Keeps phone (.flush (.writeQueue work remaining)) ((FlushCall.writeQueue work remaining).resume phone answer).1
      (.flush ((FlushCall.writeQueue work remaining).resume phone answer).2) := by
  have flush : work.Sound phone remaining := inv.sound _ List.mem_cons_self
  have all : ∀ item ∈ phone.queue, item ∈ remaining ∨ phone.Accepted item ∨
      ∃ entry ∈ work.rejected, entry.item = item := fun item queued => flush.covers item (read queued)
  simp only [FlushCall.resume]
  split
  -- Nothing was refused, so the flush ends with this write.
  · rename_i none
    refine {
      toGrows := grows_of_same rfl, numbered := ⟨inv.numbered.below, inv.numbered.apart⟩
      records := inv.recorded, stored := inv.stored, requeues := inv.requeued
      flushes := .inr (.inr ⟨rfl, rfl⟩), unstored := fun _ => rfl, sound := trivial
      added := fun _ listed => .inl listed, keeps := ?_, rejections := inv.rejections }
    rintro item (safe | carried)
    · rcases safe with accepted | queued | dealt_with
      · exact .inl (.inl accepted)
      · rcases all item queued with stays | accepted | ⟨entry, refused, own⟩
        · exact .inl (.inr (.inl stays))
        · exact .inl (.inl accepted)
        · rw [List.isEmpty_iff.mp none] at refused
          cases refused
      · exact .inl (.inr (.inr dealt_with))
    · cases carried
  -- Something was refused, and is carried until its own list is written.
  · refine {
      toGrows := grows_of_same rfl, numbered := ⟨inv.numbered.below, inv.numbered.apart⟩
      records := inv.recorded, stored := inv.stored, requeues := inv.requeued
      flushes := .inl ⟨rfl, rfl⟩, unstored := fun _ => rfl
      sound := ⟨fun _ member => .inl member, flush.refused, flush.unrecorded⟩
      added := fun _ listed => .inl listed, keeps := ?_, rejections := inv.rejections }
    rintro item (safe | carried)
    · rcases safe with accepted | queued | dealt_with
      · exact .inl (.inl accepted)
      · rcases all item queued with stays | accepted | refused
        · exact .inl (.inr (.inl stays))
        · exact .inl (.inl accepted)
        · exact .inr refused
      · exact .inl (.inr (.inr dealt_with))
    · cases carried

/-- And it stores its list behind the rejections that are there. -/
theorem flush_keeps_writeRejected {work : Flush} {remaining : Nat}
    {stored : List RejectedDriverAction} {others : List Task}
    (inv : Remembered phone (.flush (.writeRejected work remaining stored) :: others))
    (read : phone.rejected ⊆ stored) :
    Keeps phone (.flush (.writeRejected work remaining stored))
      ((FlushCall.writeRejected work remaining stored).resume phone answer).1
      (.flush ((FlushCall.writeRejected work remaining stored).resume phone answer).2) := by
  have sound : (FlushCall.writeRejected work remaining stored).Sound phone := inv.sound _ List.mem_cons_self
  have flush : work.Sound phone work.read := sound.1
  refine {
    toGrows := ⟨List.Subset.refl _, List.Subset.refl _, List.subset_append_left _ _,
      List.Subset.refl _, List.Subset.refl _⟩
    numbered := ⟨inv.numbered.below, inv.numbered.apart⟩
    records := List.append_subset.mpr ⟨inv.recorded, flush.refused⟩
    stored := List.append_subset.mpr
      ⟨List.subset_append_of_subset_left _ sound.2, List.subset_append_right _ _⟩
    requeues := List.subset_append_of_subset_left _ inv.requeued
    flushes := .inr (.inr ⟨rfl, rfl⟩), unstored := fun flies => Bool.noConfusion flies
    sound := trivial
    added := fun _ listed => .inl listed, keeps := ?_, rejections := ?_ }
  · rintro item (safe | ⟨entry, refused, own⟩)
    · refine .inl (safe.imp_right (Or.imp_right (Or.imp_left ?_)))
      rintro ⟨other, listed, stays, own⟩
      exact ⟨other, List.mem_append_left _ (read listed), stays, own⟩
    · -- It has just been stored, so no retry can have put it back.
      refine .inl (.inr (.inr (.inl ⟨entry, List.mem_append_right _ refused, ?_, own⟩)))
      exact fun requeued => flush.unrecorded entry refused (inv.requeued requeued)
  · intro entry listed
    rcases List.mem_append.mp listed with old | new
    · exact (inv.rejections entry old).imp_left fun stored => List.mem_append_left _ (read stored)
    · exact .inl (List.mem_append_right _ new)

/-- A flush loses nothing, as long as it overwrites nothing unseen. -/
theorem flush_keeps {call : FlushCall} {others : List Task}
    (inv : Remembered phone (.flush call :: others)) (read : Task.HasRead phone (.flush call)) :
    Keeps phone (.flush call) (call.resume phone answer).1 (.flush (call.resume phone answer).2) := by
  have sound : call.Sound phone := inv.sound _ List.mem_cons_self
  by_cases on_its_way : call.onItsWay = true
  · have goes : Flush.Goes phone (call.resume phone answer) :=
      FlushCall.resume_goes sound on_its_way inv.numbered inv.recorded
    have flies : (Task.flush call).isFlush = true := by
      cases call with
      | send | refresh | resend | deletePhoto => rfl
      | begin | readQueue | writeQueue | readRejected | writeRejected | done => cases on_its_way
    exact goes.leaves.keeps inv (goes.flying.trans flies.symm) goes.sound fun _ carries =>
      (FlushCall.onItsWay_carries on_its_way carries).elim
  · -- Before and after its requests it goes by the stored lists.
    cases call with
    | send | refresh | resend | deletePhoto => exact absurd rfl on_its_way
    | done result => exact (Leaves.refl phone).keeps inv rfl trivial fun _ carries => carries
    | readRejected work remaining =>
      exact (Leaves.refl phone).keeps inv rfl ⟨sound, inv.stored⟩ fun _ carries => carries
    | begin token => exact flush_keeps_begin inv
    | readQueue token => exact flush_keeps_readQueue inv
    | writeQueue work remaining => exact flush_keeps_writeQueue inv read
    | writeRejected work remaining stored => exact flush_keeps_writeRejected inv read

/-- No interleaving loses sight of anything while no stored list is overwritten unseen. -/
theorem app_remembers : app.Keeps Remembered fun loop event => DriverOnly loop event ∧ NoneOverwritten loop event where
  perm := by
    intro shared tasks tasks' perm inv
    have flushes := (perm.filter Task.isFlush).length_eq
    refine ⟨inv.numbered, inv.recorded, inv.stored, inv.requeued, flushes ▸ inv.one, ?_, ?_, ?_,
      inv.rejections⟩
    · intro resting
      rw [inv.idle resting] at flushes
      exact List.length_eq_zero_iff.mp flushes.symm
    -- The order in which the tasks are listed does not matter.
    · exact fun task member => inv.sound task (perm.mem_iff.mpr member)
    · intro item listed
      refine (inv.actions item listed).imp_right ?_
      rintro ⟨carrier, member, carries⟩
      exact ⟨carrier, perm.mem_iff.mp member, carries⟩
  resumes := by
    intro loop index answer task others found inv admitted
    have read := admitted.2 task found
    apply inv.step
    cases task with
    | enqueue call => exact enqueue_keeps inv read
    | retry call => exact retry_keeps inv read
    | discard call => exact discard_keeps inv read
    | flush call => exact flush_keeps inv read
    | sweep call =>
      -- The driver's own doings call no sweep, so none but one that is over is in progress.
      have sound := inv.sound _ List.mem_cons_self
      cases call with
      | readRejected | writeRejected => cases sound
      | done => exact (Leaves.refl loop.shared).keeps inv rfl trivial fun _ carries => carries
  calls := by
    intro loop entry inv admitted
    -- A call that begins has read nothing yet, and is no flush.
    have started : (app.start entry).Sound loop.shared ∧ (app.start entry).isFlush = false := by
      cases entry with
      | sweepAgedRejections now => exact absurd admitted.1 not_false
      | _ => exact ⟨trivial, rfl⟩
    have flushes : (app.start entry :: loop.tasks).filter Task.isFlush = loop.tasks.filter Task.isFlush := by
      rw [List.filter_cons, if_neg (by simp [started.2])]
    refine ⟨inv.numbered, inv.recorded, inv.stored, inv.requeued, flushes ▸ inv.one, flushes ▸ inv.idle,
      ?_, ?_, inv.rejections⟩
    · intro task member
      rcases List.mem_cons.mp member with rfl | old
      · exact started.1
      · exact inv.sound task old
    · intro item listed
      refine (inv.actions item listed).imp_right ?_
      rintro ⟨carrier, member, carries⟩
      exact ⟨carrier, List.mem_cons_of_mem _ member, carries⟩
  happens := by
    intro loop event inv _
    cases event with
    | signIn | signOut | renew => exact inv.leaves (leaves_beside loop.shared _ _ _)
    | wait elapsed => exact inv.leaves (leaves_beside loop.shared _ _ _)
  crashes := by
    intro loop inv admitted
    have quiet : Quiet loop.tasks := admitted.1
    refine ⟨⟨inv.numbered.below, inv.numbered.apart⟩, inv.recorded, inv.stored, inv.requeued,
      Nat.zero_le _, fun _ => rfl, ?_, ?_, inv.rejections⟩
    · intro task member
      cases member
    · intro item listed
      -- What was carried would be lost with its carrier, but none is under way.
      rcases inv.actions item listed with safe | ⟨carrier, member, carries⟩
      · exact .inl safe
      · exact (carrier.returned_carries (quiet carrier member) carries).elim

/-- What is remembered while no call is in progress is on the phone, or no longer has to be. -/
theorem Remembered.nothingLost {loop : Loop Phone Task} (inv : Remembered loop.shared loop.tasks) :
    NothingLost loop := by
  -- Whatever is in the hands of a call is in those of one that has not returned.
  constructor
  · intro quiet item listed
    rcases inv.actions item listed with safe | ⟨carrier, member, carries⟩
    · refine safe.imp_right (Or.imp_right (Or.imp_left ?_))
      rintro ⟨entry, stored, -, own⟩
      exact ⟨entry, stored, own⟩
    · exact (carrier.returned_carries (quiet carrier member) carries).elim
  · exact inv.rejections

/-- Nothing is lost in any run in which no stored list is overwritten unseen. -/
theorem nothingLost_throughout (events : List (LoopEvent Entry Answer PhoneEvent))
    (along : Along app.step (fun loop event => DriverOnly loop event ∧ NoneOverwritten loop event)
      ⟨{}, []⟩ events) :
    Throughout app.step NothingLost ⟨{}, []⟩ events := by
  -- On a phone just started nothing is stored and nothing is under way.
  have initial : Remembered {} [] := by
    refine ⟨⟨?_, ?_⟩, ?_, ?_, ?_, Nat.zero_le _, fun _ => rfl, ?_, ?_, ?_⟩
    all_goals
      intro _ member
      cases member
  exact (app_remembers.throughout initial along).mono fun _ inv => inv.nothingLost

/-- A token that has not expired for a long while. -/
def freshToken (account : String) : AccessToken := { account := account, expiresAt := 900 }

/-- Two actions queued by a driver, and a flush on its way with the first. -/
def flushBegun : List (LoopEvent Entry Answer PhoneEvent) :=
  [.outside (.signIn "Alice" (freshToken "Alice")),
    .call (.enqueueOfflineAction (.statusUpdate 1 "PICKED_UP")), .resume 0 {}, .resume 0 {}, .resume 0 {},
    .call (.flushOfflineQueue (freshToken "Alice")), .resume 1 {}, .resume 1 {}]

/-- The driver taps Delivered: the action is queued. -/
def tapsDelivered : List (LoopEvent Entry Answer PhoneEvent) :=
  [.call (.enqueueOfflineAction (.statusUpdate 1 "DELIVERED")), .resume 2 {}, .resume 2 {}, .resume 2 {}]

/-- The flush sends its request, and writes what is left of the queue. -/
def flushEnds : List (LoopEvent Entry Answer PhoneEvent) := [.resume 1 {}, .resume 1 {}]

/-- Tapped after the flush, the action is not lost. -/
theorem nothingLost_afterFlush :
    Throughout app.step NothingLost ⟨{}, []⟩ (flushBegun ++ flushEnds ++ tapsDelivered) := by
  -- Each event is within the condition.
  apply nothingLost_throughout
  decide +kernel

/-- Tapped while the flush is waiting for an answer, it is overwritten. -/
theorem tapped_while_flushing :
    Along app.step DriverOnly ⟨{}, []⟩ (flushBegun ++ tapsDelivered ++ flushEnds) ∧
    ¬ NothingLost (run app.step ⟨{}, []⟩ (flushBegun ++ tapsDelivered ++ flushEnds)) := by
  -- The run is within the driver's reach, and at its end no list has the tap, nor does the log.
  constructor
  · decide +kernel
  · intro nothing
    have lost := nothing.actions (by decide +kernel)
      { serial := 1, owner := some "Alice", action := .statusUpdate 1 "DELIVERED" 0 } (by decide +kernel)
    revert lost
    decide +kernel

end Freight.Driver
