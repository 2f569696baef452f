import Mathlib.Data.List.Perm.Subperm
import Freight.Driver.Requests

/-! What was accepted is not sent again, wherever a flush that got it accepted also gets to say so. -/

namespace Freight.Driver

variable {phone later : Phone} {answer : Answer} {item : QueuedAction}

/-- An accepted action is sent once and blocks nothing, and no action outlives its photo. -/
structure SentOnce (phone : Phone) : Prop where
  once : ∀ item, (phone.history.log.filter fun sent => sent.item = item && sent.reply.accepted).length ≤ 1
  never_again : phone.history.log.Pairwise fun earlier later =>
    earlier.item = later.item → earlier.reply.accepted = false
  unblocked : ∀ item behind, phone.queue = item :: behind → ¬ phone.Accepted item
  photos : ∀ item, item ∈ phone.queue ∨ (∃ entry ∈ phone.rejected, entry.item = item) →
    ∀ file, item.file = some file → file ∈ phone.files

/-- A run of `flushOfflineQueue`. -/
def Task.flushes : Task → Bool
  | .flush _ => true
  | _ => false

/-- One call after another, and a process that dies in the middle of none but a flush. -/
def OneAtATime (loop : Loop Phone Task) : LoopEvent Entry Answer PhoneEvent → Prop
  | .call _ => Quiet loop.tasks
  | .crash => ∀ task ∈ loop.tasks, task.returned = true ∨ task.flushes = true
  | .resume _ _ | .outside _ => True

/-- A flush hears of what was accepted, and the photo of an accepted upload can be deleted. -/
def Task.Heard (phone : Phone) (answer : Answer) : Task → Prop
  | .flush (.send work) => (phone.answered work.token answer.reply).lost = false
  | .flush (.resend _ token) => (phone.answered token answer.reply).lost = false
  | .flush (.deletePhoto _ file) => file ∉ answer.undeletable
  | _ => True

/-- What was accepted is heard of and written down: the process dies while nothing accepted is queued. -/
def WrittenDown (loop : Loop Phone Task) : LoopEvent Entry Answer PhoneEvent → Prop
  | .resume index answer => ∀ task ∈ loop.tasks[index]?, task.Heard loop.shared answer
  | .crash => ∀ item ∈ loop.shared.queue, ¬ loop.shared.Accepted item
  | .call _ | .outside _ => True

instance (phone : Phone) (answer : Answer) : (task : Task) → Decidable (task.Heard phone answer)
  | .flush (.send work) => inferInstanceAs (Decidable ((phone.answered work.token answer.reply).lost = false))
  | .flush (.resend _ token) => inferInstanceAs (Decidable ((phone.answered token answer.reply).lost = false))
  | .flush (.deletePhoto _ file) => inferInstanceAs (Decidable (file ∉ answer.undeletable))
  | .flush (.begin _) | .flush (.readQueue _) | .flush (.refresh _ _) | .flush (.writeQueue _ _)
  | .flush (.readRejected _ _) | .flush (.writeRejected _ _ _) | .flush (.done _)
  | .enqueue _ | .retry _ | .discard _ | .sweep _ => .isTrue trivial

instance (loop : Loop Phone Task) : (event : LoopEvent Entry Answer PhoneEvent) →
    Decidable (OneAtATime loop event)
  | .call _ => inferInstanceAs (Decidable (Quiet loop.tasks))
  | .crash => inferInstanceAs (Decidable (∀ task ∈ loop.tasks, _))
  | .resume _ _ | .outside _ => .isTrue trivial

instance (loop : Loop Phone Task) : (event : LoopEvent Entry Answer PhoneEvent) →
    Decidable (WrittenDown loop event)
  | .resume index _ => inferInstanceAs (Decidable (∀ task ∈ loop.tasks[index]?, _))
  | .crash => inferInstanceAs (Decidable (∀ item ∈ loop.shared.queue, _))
  | .call _ | .outside _ => .isTrue trivial

/-- Actions that can all still be sent: each of its own, its photo on disk, and none accepted. -/
structure Tidy (serial : Nat) (files : List Nat) (log : List Sent) (items : List QueuedAction) : Prop where
  apart : (items.map QueuedAction.serial).Nodup
  below : ∀ item ∈ items, item.serial < serial
  known : ∀ sent ∈ log, sent.item.serial < serial
  photos : ∀ item ∈ items, ∀ file, item.file = some file → file = item.serial ∧ file ∈ files
  unaccepted : ∀ item ∈ items, ∀ sent ∈ log, sent.item = item → sent.reply.accepted = false
  never_again : log.Pairwise fun earlier later => earlier.item = later.item → earlier.reply.accepted = false

namespace Tidy

variable {serial more : Nat} {files : List Nat} {log : List Sent} {items fewer : List QueuedAction}

/-- Fewer actions, in whatever order, can still be sent. -/
theorem sub (tidy : Tidy serial files log items) (sub : fewer.Subperm items) : Tidy serial files log fewer := by
  -- All but the order of the list is said of each action by itself.
  obtain ⟨part, perm, within⟩ := sub
  refine ⟨?_, fun item member => tidy.below item ?_, tidy.known, fun item member => tidy.photos item ?_,
    fun item member => tidy.unaccepted item ?_, tidy.never_again⟩
  · exact (perm.map _).nodup_iff.mp (tidy.apart.sublist (within.map _))
  all_goals exact within.subset (perm.mem_iff.mpr member)

/-- Counting further makes no difference. -/
theorem counted (tidy : Tidy serial files log items) (further : serial ≤ more) :
    Tidy more files log items where
  -- Whatever was below the count is below a later one.
  apart := tidy.apart
  below := fun item member => (tidy.below item member).trans_le further
  known := fun sent listed => (tidy.known sent listed).trans_le further
  photos := tidy.photos
  unaccepted := tidy.unaccepted
  never_again := tidy.never_again

/-- An action with a number of its own can be sent with the others. -/
theorem enqueued (tidy : Tidy serial files log items) (own : item.serial = serial)
    (photo : ∀ file, item.file = some file → file = serial) :
    Tidy (serial + 1) (files ++ item.file.toList) log (item :: items) := by
  -- The numbers given out so far are all lower.
  have new : ∀ other ∈ items, other.serial ≠ serial := fun other member =>
    (tidy.below other member).ne
  refine ⟨?_, ?_, fun sent listed => Nat.lt_succ_of_lt (tidy.known sent listed), ?_, ?_,
    tidy.never_again⟩
  · rw [List.map_cons, List.nodup_cons, own]
    refine ⟨fun listed => ?_, tidy.apart⟩
    obtain ⟨other, member, same⟩ := List.mem_map.mp listed
    exact new other member same
  · intro other member
    rcases List.mem_cons.mp member with rfl | old
    · exact own ▸ Nat.lt_succ_self _
    · exact Nat.lt_succ_of_lt (tidy.below other old)
  · intro other member file its
    rcases List.mem_cons.mp member with rfl | old
    · exact ⟨(photo file its).trans own.symm, List.mem_append_right _ (by rw [its]; exact List.mem_cons_self)⟩
    · obtain ⟨same, there⟩ := tidy.photos other old file its
      exact ⟨same, List.mem_append_left _ there⟩
  · intro other member sent listed same
    rcases List.mem_cons.mp member with rfl | old
    · -- No request was ever about an action with this number.
      exact absurd (same ▸ own) (tidy.known sent listed).ne
    · exact tidy.unaccepted other old sent listed same

/-- Every request about one of the actions is the first that could be accepted. -/
theorem logged {sent : Sent} (tidy : Tidy serial files log items) (member : sent.item ∈ items) :
    (log ++ [sent]).Pairwise fun earlier later =>
      earlier.item = later.item → earlier.reply.accepted = false := by
  -- The pairs of earlier requests are as they were, and none before the last was accepted for its action.
  refine List.pairwise_append.mpr ⟨tidy.never_again, List.pairwise_singleton _ _, ?_⟩
  intro earlier listed later last same
  rw [List.mem_singleton.mp last] at same
  exact tidy.unaccepted _ member earlier listed same

/-- An action that was sent and not accepted can be sent again. -/
theorem refused {sent : Sent} (tidy : Tidy serial files log items) (member : sent.item ∈ items)
    (failed : sent.reply.accepted = false) : Tidy serial files (log ++ [sent]) items where
  apart := tidy.apart
  below := tidy.below
  known := by
    intro other listed
    rcases List.mem_append.mp listed with old | new
    · exact tidy.known other old
    · rw [List.mem_singleton.mp new]
      exact tidy.below _ member
  photos := tidy.photos
  unaccepted := by
    intro other among entry listed same
    -- Only the last request is new, and it was not accepted.
    rcases List.mem_append.mp listed with old | new
    · exact tidy.unaccepted other among entry old same
    · rw [List.mem_singleton.mp new]
      exact failed
  never_again := tidy.logged member

/-- Once an action was accepted, the others can still be sent. -/
theorem accepted {sent : Sent} (tidy : Tidy serial files log (sent.item :: items)) :
    Tidy serial files (log ++ [sent]) items := by
  -- What is left can be sent as before.
  have others := tidy.sub (List.Sublist.subperm (List.sublist_cons_self _ _))
  refine ⟨others.apart, others.below, ?_, others.photos, ?_, tidy.logged List.mem_cons_self⟩
  · intro other listed
    rcases List.mem_append.mp listed with old | new
    · exact tidy.known other old
    · rw [List.mem_singleton.mp new]
      exact tidy.below _ List.mem_cons_self
  · intro other among entry listed same
    rcases List.mem_append.mp listed with old | new
    · exact others.unaccepted other among entry old same
    · -- The accepted action is none of the others.
      have apart := (List.nodup_cons.mp tidy.apart).1
      rw [List.mem_singleton.mp new] at same
      exact absurd (List.mem_map.mpr ⟨other, among, congrArg _ same.symm⟩) apart

/-- A photo that belongs to none of the actions may go. -/
theorem deleted {file : Nat} (tidy : Tidy serial files log items)
    (stray : ∀ item ∈ items, item.file ≠ some file) :
    Tidy serial (files.filter (· ≠ file)) log items where
  apart := tidy.apart
  below := tidy.below
  known := tidy.known
  photos := by
    -- The photo of each action is another file, so the filter leaves it.
    intro item member other its
    obtain ⟨same, there⟩ := tidy.photos item member other its
    refine ⟨same, List.mem_filter.mpr ⟨there, ?_⟩⟩
    simpa using fun the_one : other = file => stray item member (the_one ▸ its)
  unaccepted := tidy.unaccepted
  never_again := tidy.never_again

/-- The photo of one action belongs to none of the others. -/
theorem stray {file : Nat} (tidy : Tidy serial files log (item :: items)) (its : item.file = some file) :
    ∀ other ∈ items, other.file ≠ some file := by
  intro other member also
  -- Each photo has the number of its action, and no two actions have one number.
  have same := (tidy.photos item List.mem_cons_self file its).1
  have likewise := (tidy.photos other (List.mem_cons_of_mem _ member) file also).1
  exact (List.nodup_cons.mp tidy.apart).1 (List.mem_map.mpr ⟨other, member, likewise.symm.trans same⟩)

end Tidy

/-- A queue and a list of rejections whose actions can all still be sent. -/
def Phone.Tidy (phone : Phone) (queue : List QueuedAction) (listed : List RejectedDriverAction) : Prop :=
  Driver.Tidy phone.serial phone.files phone.history.log (queue ++ listed.map RejectedDriverAction.item)

/-- Taking an entry off the list leaves less than the list. -/
theorem subperm_without {list : List RejectedDriverAction} {entry : RejectedDriverAction}
    (member : entry ∈ list) :
    (entry.item :: (list.filter fun other => other.id ≠ entry.id).map RejectedDriverAction.item).Subperm
      (list.map RejectedDriverAction.item) := by
  -- The entry stands somewhere on the list, and every other with its id goes as well.
  obtain ⟨before, after, rfl⟩ := List.append_of_mem member
  refine List.Subperm.trans (List.Sublist.subperm ?_)
    (List.perm_middle.symm.map RejectedDriverAction.item).subperm
  rw [List.filter_append, List.filter_cons_of_neg (by simp), ← List.filter_append, List.map_cons]
  exact (List.filter_sublist.map _).cons_cons _

/-- A flush on its way: what is ahead of it and what was refused can still be sent. -/
structure Flush.InOrder (phone : Phone) (work : Flush) (ahead : List QueuedAction) : Prop where
  tidy : phone.Tidy ahead (phone.rejected ++ work.rejected)
  stored : ahead ⊆ phone.queue
  /-- What is stored can be sent too, unless some of it was accepted. -/
  restart : (∀ item ∈ phone.queue, ¬ phone.Accepted item) → phone.Tidy phone.queue phone.rejected

/-- The state of things in the middle of a flush. -/
def FlushCall.InOrder (phone : Phone) : FlushCall → Prop
  | .begin _ | .readQueue _ | .done _ => phone.Tidy phone.queue phone.rejected
  | .send work | .refresh work _ | .resend work _ => work.InOrder phone (work.item :: work.behind)
  -- The photo belongs to the action that was accepted, and to no other.
  | .deletePhoto work file => work.InOrder phone work.behind ∧
    work.item ∈ phone.queue ∧ phone.Accepted work.item ∧ file ∈ phone.files ∧
    ∀ other ∈ work.behind ++ (phone.rejected ++ work.rejected).map RejectedDriverAction.item,
      other.file ≠ some file
  | .writeQueue work remaining => work.InOrder phone remaining
  | .readRejected work _ => phone.Tidy phone.queue (phone.rejected ++ work.rejected)
  | .writeRejected work _ stored =>
    stored = phone.rejected ∧ phone.Tidy phone.queue (phone.rejected ++ work.rejected)

/-- The state of things in the middle of a call, or after it. -/
def Task.InOrder (phone : Phone) : Task → Prop
  | .enqueue (.readQueue item) => phone.Tidy (phone.queue ++ [item]) phone.rejected
  | .enqueue (.writeQueue read item) =>
    read = phone.queue ∧ phone.Tidy (phone.queue ++ [item]) phone.rejected
  | .retry (.readQueue list entry) =>
    list = phone.rejected ∧ entry ∈ list ∧ phone.Tidy phone.queue phone.rejected
  | .retry (.writeQueue list entry read) =>
    list = phone.rejected ∧ entry ∈ list ∧ read = phone.queue ∧ phone.Tidy phone.queue phone.rejected
  -- The entry has left its list already, as far as the photos go.
  | .retry (.writeRejected list entry) | .discard (.writeRejected list entry) =>
    phone.Tidy phone.queue (list.filter fun other => other.id ≠ entry.id)
  | .sweep (.writeRejected kept _) => phone.Tidy phone.queue kept
  | .flush call => call.InOrder phone
  | _ => phone.Tidy phone.queue phone.rejected

namespace Flush.InOrder

variable {work : Flush}

/-- Past an action that was dealt with, a flush goes on to what is behind it. -/
theorem advance (order : work.InOrder phone work.behind) : work.advance.InOrder phone := by
  -- What was behind is now ahead, and the phone is the same.
  unfold Flush.advance
  cases behind : work.behind with
  | nil =>
    rw [behind] at order
    exact order
  | cons next rest =>
    rw [behind] at order
    exact ⟨order.tidy, order.stored, order.restart⟩

/-- Counting further makes no difference to a flush. -/
theorem listing {refusal : RejectedDriverAction} {history : History}
    (order : work.InOrder phone (work.item :: work.behind)) (own : refusal.item = work.item)
    (same : history.log = phone.history.log) :
    Flush.InOrder { phone with serial := phone.serial + 1, history := history }
      { work with rejected := work.rejected ++ [refusal] } work.behind := by
  refine ⟨?_, (List.cons_subset.mp order.stored).2, fun none => ?_⟩
  · unfold Phone.Tidy
    rw [same]
    refine Tidy.sub (order.tidy.counted (Nat.le_succ _)) (List.Perm.subperm ?_)
    -- The action has only moved from the one list to the other.
    simp only [List.map_append, List.map_cons, List.map_nil, own, ← List.append_assoc]
    exact List.perm_append_singleton _ _
  · unfold Phone.Accepted at none
    unfold Phone.Tidy
    rw [same] at none ⊢
    exact (order.restart none).counted (Nat.le_succ _)

/-- A failure keeps the action ahead, or puts it on the list. -/
theorem caught (order : work.InOrder phone (work.item :: work.behind)) (error : AppError) :
    (work.caught phone error).2.InOrder (work.caught phone error).1 := by
  -- Kept back, nothing has moved; refused, the action moves from the queue to the list.
  rcases work.caught_cases phone error with ⟨-, same⟩ | ⟨-, refusal, -, own, same⟩
  · rw [same]
    exact order
  · rw [same]
    exact advance (listing order own rfl)

/-- The request of an action is sent, and not accepted. -/
theorem sent_refused {token : AccessToken} {reply : Reply}
    (order : work.InOrder phone (work.item :: work.behind)) (failed : reply.accepted = false) :
    work.InOrder (phone.send work.item token reply) (work.item :: work.behind) where
  -- What is not accepted adds a request to the log, and no acceptance that a restart could find.
  tidy := Tidy.refused order.tidy List.mem_cons_self failed
  stored := order.stored
  restart := by
    intro none
    refine Tidy.refused (order.restart fun item queued => ?_) (List.mem_append_left _ ?_) failed
    · rintro ⟨sent, listed, same, ok⟩
      exact none item queued ⟨sent, List.mem_append_left _ listed, same, ok⟩
    · exact order.stored List.mem_cons_self

/-- The request of an action is sent, and accepted. -/
theorem sent_accepted {token : AccessToken} {reply : Reply}
    (order : work.InOrder phone (work.item :: work.behind)) (accepted : reply.accepted = true) :
    work.InOrder (phone.send work.item token reply) work.behind where
  tidy := Tidy.accepted order.tidy
  stored := (List.cons_subset.mp order.stored).2
  restart := fun none =>
    -- Something stored was accepted.
    absurd ⟨_, List.mem_append_right _ List.mem_cons_self, rfl, accepted⟩
      (none work.item (order.stored List.mem_cons_self))

/-- What follows a request that was answered, whichever way. -/
theorem settled {token : AccessToken} {reply : Reply} {result : Except AppError Unit}
    (order : work.InOrder phone (work.item :: work.behind))
    (told : result = .ok () ↔ reply.accepted = true) :
    (work.settled (phone.send work.item token reply) result).2.InOrder
      (work.settled (phone.send work.item token reply) result).1 := by
  cases result with
  | error error =>
    -- An error means that nothing was accepted.
    refine caught (order.sent_refused ?_) error
    exact Bool.eq_false_iff.mpr fun accepted => by cases told.mpr accepted
  | ok passed =>
    have accepted := told.mp rfl
    have onward := @sent_accepted phone work token reply order accepted
    unfold Flush.settled
    simp only
    split
    · -- The photo of an accepted action is still to be deleted.
      rename_i file its
      refine ⟨onward, order.stored List.mem_cons_self,
        ⟨_, List.mem_append_right _ List.mem_cons_self, rfl, accepted⟩, ?_, order.tidy.stray its⟩
      exact (order.tidy.photos work.item List.mem_cons_self file its).2
    · exact advance ⟨onward.tidy, onward.stored, onward.restart⟩

/-- A request leaves everything in order, unless the answer to an accepted one is lost. -/
theorem asked {token : AccessToken} {reply : Reply} {final : Prop} {next : Phone × FlushCall}
    (order : work.InOrder phone (work.item :: work.behind)) (asked : work.Asked phone token reply final next)
    (heard : (phone.answered token reply).lost = false) : next.2.InOrder next.1 := by
  cases asked with
  | unread => exact caught order _
  | unauthorized answered =>
    -- A request that is not authorised is not accepted, and the action may be sent again.
    refine order.sent_refused ?_
    rw [answered]
    rfl
  | answered answered told =>
    refine order.settled ?_
    rw [answered]
    exact told
  | failed again unheard => exact caught (order.sent_refused (unheard.symm.trans heard)) _

/-- The photo of an accepted upload is deleted. -/
theorem deleted {file : Nat} (order : work.InOrder phone work.behind)
    (stored : work.item ∈ phone.queue) (accepted : phone.Accepted work.item)
    (stray : ∀ other ∈ work.behind ++ (phone.rejected ++ work.rejected).map RejectedDriverAction.item,
      other.file ≠ some file) :
    work.InOrder { phone with files := phone.files.filter (· ≠ file) } work.behind where
  tidy := Tidy.deleted order.tidy stray
  stored := order.stored
  -- The action is accepted, so a restart is promised nothing about it.
  restart := fun none => absurd accepted (none work.item stored)

end Flush.InOrder

/-- On its way, a flush keeps everything in order while it hears of what was accepted. -/
theorem FlushCall.InOrder.resume {call : FlushCall} (order : call.InOrder phone)
    (heard : (Task.flush call).Heard phone answer) :
    (call.resume phone answer).2.InOrder (call.resume phone answer).1 := by
  cases call with
  | done => exact order
  | begin token =>
    simp only [FlushCall.resume]
    split
    · exact order
    · exact order
  | readQueue token =>
    simp only [FlushCall.resume]
    split
    · exact order
    · rename_i item behind queued
      unfold FlushCall.InOrder at order
      refine ⟨?_, queued ▸ List.Subset.refl _, fun _ => order⟩
      rw [queued, ← List.append_nil phone.rejected] at order
      exact order
  | send work => exact Flush.InOrder.asked order Flush.asked_send heard
  | refresh work account =>
    simp only [FlushCall.resume, Flush.refreshed]
    split
    · exact ⟨order.tidy, order.stored, order.restart⟩
    · refine Flush.InOrder.caught ?_ _
      exact ⟨order.tidy, order.stored, order.restart⟩
    · exact Flush.InOrder.caught order _
  | resend work token => exact Flush.InOrder.asked order Flush.asked_resend heard
  | deletePhoto work file =>
    obtain ⟨onward, stored, accepted, there, stray⟩ := order
    -- The photo is there and its deletion does not throw, so it works.
    have works : phone.delete answer.undeletable file =
        some { phone with files := phone.files.filter (· ≠ file) } := by
      unfold Phone.delete
      exact if_pos (by simpa using ⟨there, heard⟩)
    simp only [FlushCall.resume, works]
    have dealt := onward.deleted stored accepted stray
    exact Flush.InOrder.advance ⟨dealt.tidy, dealt.stored, dealt.restart⟩
  | writeQueue work remaining =>
    have tidy := order.tidy
    simp only [FlushCall.resume]
    split
    · -- Nothing was rejected, so what is left on the queue is all there is.
      rename_i none
      rw [List.isEmpty_iff.mp none, List.append_nil] at tidy
      exact tidy
    · exact tidy
  | readRejected work remaining => exact ⟨rfl, order⟩
  | writeRejected work remaining stored =>
    obtain ⟨rfl, tidy⟩ := order
    exact tidy

/-- Deleting the photo of an action leaves the others what they need. -/
theorem tidy_deleteQuietly {items : List QueuedAction} (undeletable : List Nat)
    (tidy : Tidy phone.serial phone.files phone.history.log (item :: items)) :
    ∃ files, phone.deleteQuietly undeletable item.file = { phone with files := files } ∧
      Tidy phone.serial files phone.history.log items := by
  -- Nothing is deleted, or a photo that belongs to no other action.
  have others := tidy.sub (List.Sublist.subperm (List.sublist_cons_self _ _))
  obtain ⟨files, same, rfl | ⟨file, its, rfl⟩⟩ := deleteQuietly_eq phone undeletable item.file
  · exact ⟨_, same, others⟩
  · exact ⟨_, same, others.deleted (tidy.stray its)⟩

/-- So does deleting the photos of several. -/
theorem tidy_swept {items : List QueuedAction} (undeletable : List Nat) {swept : List RejectedDriverAction}
    (tidy : Tidy phone.serial phone.files phone.history.log (swept.map RejectedDriverAction.item ++ items)) :
    ∃ files, swept.foldl (fun phone entry => phone.deleteQuietly undeletable entry.item.file) phone =
        { phone with files := files } ∧ Tidy phone.serial files phone.history.log items := by
  -- The photos go one entry after another.
  induction swept generalizing phone with
  | nil => exact ⟨phone.files, rfl, tidy⟩
  | cons entry rest ih =>
    obtain ⟨files, same, left⟩ := tidy_deleteQuietly undeletable tidy
    rw [List.foldl_cons, same]
    exact @ih { phone with files := files } left

/-- One call's step keeps everything in order while its flush hears of what was accepted. -/
theorem Task.InOrder.resume {task : Task} (order : task.InOrder phone)
    (heard : task.Heard phone answer) :
    (task.resume phone answer).2.InOrder (task.resume phone answer).1 := by
  cases task with
  | flush call => exact FlushCall.InOrder.resume order heard
  -- To enqueue adds an action with a photo of its own.
  | enqueue call =>
    cases call with
    | done => exact order
    | readQueue item => exact ⟨rfl, order⟩
    | writeQueue read item =>
      obtain ⟨rfl, tidy⟩ := order
      exact tidy
    | persist draft =>
      refine Tidy.sub (Tidy.enqueued order rfl fun file its => ?_) (List.Perm.subperm ?_)
      · cases draft with
        | statusUpdate => cases its
        | incidentReport payload withPhoto =>
          cases withPhoto with
          | false => cases its
          | true => exact (Option.some.inj its).symm
        | deliveryPhoto => exact (Option.some.inj its).symm
      · rw [List.append_assoc]
        exact List.perm_middle
  -- To retry moves an action from one list to the other.
  | retry call =>
    cases call with
    | done => exact order
    | readRejected id =>
      simp only [Task.resume, RetryCall.resume]
      cases found : phone.rejected.find? fun entry => entry.id = id with
      | none => exact order
      | some entry => exact ⟨rfl, List.mem_of_find?_eq_some found, order⟩
    | readQueue list entry => exact ⟨order.1, order.2.1, rfl, order.2.2⟩
    | writeQueue list entry read =>
      obtain ⟨rfl, member, rfl, tidy⟩ := order
      refine Tidy.sub tidy ?_
      -- The entry's action has moved to the queue.
      show ((phone.queue ++ [entry.item]) ++ _).Subperm _
      rw [List.append_assoc]
      exact (List.subperm_append_left _).mpr (subperm_without member)
    | writeRejected list entry => exact order
  -- To discard takes an action off its list, and its photo with it.
  | discard call =>
    cases call with
    | done => exact order
    | readRejected id =>
      simp only [Task.resume, DiscardCall.resume]
      cases found : phone.rejected.find? fun entry => entry.id = id with
      | none => exact order
      | some entry =>
        have fewer := (List.subperm_append_left phone.queue).mpr
          (subperm_without (List.mem_of_find?_eq_some found))
        have first := Tidy.sub (Tidy.sub order fewer) List.perm_middle.symm.subperm
        obtain ⟨files, same, left⟩ := tidy_deleteQuietly answer.undeletable first
        simp only [same]
        exact left
    | writeRejected list entry => exact order
  -- The sweep does so for all that are aged.
  | sweep call =>
    cases call with
    | done => exact order
    | readRejected now =>
      simp only [Task.resume, SweepCall.resume]
      split
      · exact order
      · have parted := (List.filter_append_perm (fun entry : RejectedDriverAction => entry.aged now)
          phone.rejected).symm.map RejectedDriverAction.item
        rw [List.map_append] at parted
        have first := Tidy.sub order ((parted.append_left phone.queue).trans
          (List.perm_append_comm_assoc _ _ _)).symm.subperm
        obtain ⟨files, same, left⟩ := tidy_swept answer.undeletable first
        simp only [same]
        exact left
    | writeRejected kept swept => exact order

/-- A flush that dies with nothing accepted on the queue leaves the phone as it would start again. -/
theorem FlushCall.InOrder.crash {call : FlushCall} (order : call.InOrder phone)
    (written : ∀ item ∈ phone.queue, ¬ phone.Accepted item) : phone.Tidy phone.queue phone.rejected := by
  -- What the flush has refused is only in its memory, and is forgotten with it.
  have fewer : ∀ work : Flush, phone.Tidy phone.queue (phone.rejected ++ work.rejected) →
      phone.Tidy phone.queue phone.rejected := fun work tidy => by
    refine Tidy.sub tidy (List.Sublist.subperm ?_)
    exact (List.Sublist.refl _).append ((List.sublist_append_left _ _).map _)
  cases call with
  | begin | readQueue | done => exact order
  | send work | refresh work account | resend work token => exact Flush.InOrder.restart order written
  | writeQueue work remaining => exact Flush.InOrder.restart order written
  | deletePhoto work file => exact order.1.restart written
  | readRejected work remaining => exact fewer work order
  | writeRejected work remaining stored => exact fewer work order.2

/-- Outside a call everything is tidy, and in the middle of one everything is in order. -/
structure Orderly (phone : Phone) (tasks : List Task) : Prop where
  one : (tasks.filter fun task => !task.returned).length ≤ 1
  going : ∀ task ∈ tasks, task.returned = false → task.InOrder phone
  tidy : Quiet tasks → phone.Tidy phone.queue phone.rejected

/-- A call that has returned leaves everything tidy. -/
theorem Task.InOrder.tidy {task : Task} (order : task.InOrder phone) (returned : task.returned = true) :
    phone.Tidy phone.queue phone.rejected := by
  -- Every kind of call says the same once it is done.
  cases task with
  | enqueue call | retry call | discard call | sweep call | flush call =>
    cases call with
    | done => exact order
    | _ => cases returned

/-- A call that has returned does nothing more. -/
theorem Task.resume_returned {task : Task} (returned : task.returned = true) :
    task.resume phone answer = (phone, task) := by
  -- Every kind of call is left as it is once it is done.
  cases task with
  | enqueue call | retry call | discard call | sweep call | flush call =>
    cases call with
    | done => rfl
    | _ => cases returned

/-- A flush does not ask for more than what is stored, counted and written down. -/
theorem Flush.InOrder.beside {work : Flush} {ahead : List QueuedAction} (order : work.InOrder phone ahead)
    (queue : later.queue = phone.queue) (rejected : later.rejected = phone.rejected)
    (serial : later.serial = phone.serial) (files : later.files = phone.files)
    (log : later.history.log = phone.history.log) : work.InOrder later ahead := by
  -- Being tidy is about the numbers, the photos and the log.
  have tidy : ∀ queue listed, later.Tidy queue listed ↔ phone.Tidy queue listed := by
    intro queue listed
    unfold Phone.Tidy
    rw [serial, files, log]
  have accepted : ∀ item, later.Accepted item ↔ phone.Accepted item := by
    intro item
    unfold Phone.Accepted
    rw [log]
  constructor
  · rw [rejected, tidy]
    exact order.tidy
  · rw [queue]
    exact order.stored
  · simp only [queue, rejected, tidy, accepted]
    exact order.restart

/-- What is beside the queue is no part of its order. -/
theorem Task.InOrder.beside {task : Task} (order : task.InOrder phone) (event : PhoneEvent) :
    task.InOrder (phone.happen event) := by
  -- None of the events touches the lists or the files.
  cases event with
  | signIn | signOut | renew | wait =>
    cases task with
    | enqueue call | retry call | discard call | sweep call => cases call <;> exact order
    | flush call =>
      cases call with
      | begin | readQueue | done | readRejected => exact order
      | writeRejected => exact order
      | send | refresh | resend | writeQueue => exact Flush.InOrder.beside order rfl rfl rfl rfl rfl
      | deletePhoto => exact ⟨Flush.InOrder.beside order.1 rfl rfl rfl rfl rfl, order.2⟩

/-- One call after another keeps everything in order, while what is accepted is written down. -/
theorem app_orderly : app.Keeps Orderly fun loop event => OneAtATime loop event ∧ WrittenDown loop event where
  perm := by
    intro shared tasks tasks' perm inv
    refine ⟨(perm.filter _).length_eq ▸ inv.one, fun task member => inv.going task (perm.mem_iff.mpr member),
      fun quiet => inv.tidy fun task member => quiet task (perm.mem_iff.mp member)⟩
  resumes := by
    intro loop index answer task others found inv admitted
    show Orderly (task.resume loop.shared answer).1 ((task.resume loop.shared answer).2 :: others)
    cases ended : task.returned with
    | true =>
      rw [Task.resume_returned ended]
      exact inv
    | false =>
      have order := (inv.going task List.mem_cons_self ended).resume (admitted.2 task found)
      -- While one call is in progress, no other is.
      have one := inv.one
      rw [List.filter_cons, ended] at one
      -- So beside a call in progress there are only calls that are over.
      have rest : others.filter (fun task => !task.returned) = [] :=
        List.length_eq_zero_iff.mp (by simpa using one)
      refine ⟨?_, ?_, fun quiet => order.tidy (quiet _ List.mem_cons_self)⟩
      · rw [List.filter_cons, rest]
        split <;> simp
      · intro other member going
        rcases List.mem_cons.mp member with rfl | old
        · exact order
        · have listed : other ∈ others.filter fun task => !task.returned :=
            List.mem_filter.mpr ⟨old, by simp [going]⟩
          rw [rest] at listed
          cases listed
  calls := by
    intro loop entry inv admitted
    have quiet : Quiet loop.tasks := admitted.1
    have tidy := inv.tidy quiet
    have none : loop.tasks.filter (fun task => !task.returned) = [] :=
      List.filter_eq_nil_iff.mpr fun task member => by simp [quiet task member]
    have begins : (app.start entry).InOrder loop.shared ∧ (app.start entry).returned = false := by
      cases entry <;> exact ⟨tidy, rfl⟩
    refine ⟨?_, ?_, fun ended => absurd (ended _ List.mem_cons_self) (by simp [begins.2])⟩
    · rw [List.filter_cons, none]
      split <;> simp
    · intro task member going
      rcases List.mem_cons.mp member with rfl | old
      · exact begins.1
      · exact absurd (quiet task old) (by simp [going])
  happens := by
    intro loop event inv _
    refine ⟨inv.one, fun task member going => (inv.going task member going).beside event, fun quiet => ?_⟩
    have tidy := inv.tidy quiet
    cases event <;> exact tidy
  crashes := by
    intro loop inv admitted
    refine ⟨Nat.zero_le _, fun _ member => absurd member List.not_mem_nil, fun _ => ?_⟩
    show loop.shared.Tidy loop.shared.queue loop.shared.rejected
    -- The app dies between two calls, or in a flush that has everything written.
    by_cases quiet : Quiet loop.tasks
    · exact inv.tidy quiet
    · unfold Quiet at quiet
      push Not at quiet
      obtain ⟨task, member, going⟩ := quiet
      have going : task.returned = false := by simpa using going
      have flushes := (admitted.1 task member).resolve_left (by simp [going])
      cases task with
      | flush call => exact FlushCall.InOrder.crash (inv.going _ member going) admitted.2
      | enqueue | retry | discard | sweep => cases flushes

/-- Where nothing accepted is sent again, nothing is accepted twice. -/
theorem accepted_once {log : List Sent} (never_again : log.Pairwise fun earlier later =>
    earlier.item = later.item → earlier.reply.accepted = false) (item : QueuedAction) :
    (log.filter fun sent => sent.item = item && sent.reply.accepted).length ≤ 1 := by
  generalize same : log.filter (fun sent : Sent => sent.item = item && sent.reply.accepted) = listed
  have apart := same ▸ never_again.filter (fun sent : Sent => sent.item = item && sent.reply.accepted)
  have each : ∀ sent ∈ listed, sent.item = item ∧ sent.reply.accepted = true := by
    intro sent member
    rw [← same] at member
    simpa using (List.mem_filter.mp member).2
  cases listed with
  | nil => exact Nat.zero_le _
  | cons first rest =>
    cases rest with
    | nil => exact Nat.le_refl _
    | cons second more =>
      -- Of two requests that were accepted, the later was sent again.
      have one := each first List.mem_cons_self
      have other := each second (List.mem_cons_of_mem _ List.mem_cons_self)
      have refused := (List.pairwise_cons.mp apart).1 second List.mem_cons_self
        (one.1.trans other.1.symm)
      rw [one.2] at refused
      cases refused

/-- A tidy phone has sent nothing again that was accepted, and still has what it may send. -/
theorem Phone.Tidy.sentOnce (tidy : phone.Tidy phone.queue phone.rejected) : SentOnce phone where
  once := accepted_once tidy.never_again
  never_again := tidy.never_again
  unblocked := by
    -- An accepted action in front would block the queue, and none is stored.
    rintro item behind queued ⟨sent, listed, same, accepted⟩
    have member : item ∈ phone.queue := by
      rw [queued]
      exact List.mem_cons_self
    rw [tidy.unaccepted item (List.mem_append_left _ member) sent listed same] at accepted
    cases accepted
  photos := by
    intro item member file its
    refine (Driver.Tidy.photos tidy item ?_ file its).2
    rcases member with queued | ⟨entry, listed, own⟩
    · exact List.mem_append_left _ queued
    · exact List.mem_append_right _ (List.mem_map.mpr ⟨entry, listed, own⟩)

/-- Nothing accepted is sent again in any run in which what is accepted is written down. -/
theorem sentOnce_throughout (events : List (LoopEvent Entry Answer PhoneEvent))
    (along : Along app.step (fun loop event => OneAtATime loop event ∧ WrittenDown loop event)
      ⟨{}, []⟩ events) :
    Throughout app.step (fun loop => Quiet loop.tasks → SentOnce loop.shared) ⟨{}, []⟩ events := by
  -- On a phone just started there is nothing to send.
  have initial : Orderly {} [] := by
    refine ⟨Nat.zero_le _, fun _ member => absurd member List.not_mem_nil, fun _ => ?_⟩
    refine ⟨List.nodup_nil, ?_, ?_, ?_, ?_, List.Pairwise.nil⟩
    all_goals exact fun _ member => absurd member List.not_mem_nil
  exact (app_orderly.throughout initial along).mono fun loop inv quiet => (inv.tidy quiet).sentOnce

/-- The parcel's photo and the next pickup, queued by a driver who is signed in. -/
def photoQueued : List (LoopEvent Entry Answer PhoneEvent) :=
  [.outside (.signIn "Alice" { account := "Alice", expiresAt := 900 }),
    .call (.enqueueOfflineAction (.deliveryPhoto 1 "photo.jpg" "image/jpeg" none)),
    .resume 0 {}, .resume 0 {}, .resume 0 {},
    .call (.enqueueOfflineAction (.statusUpdate 2 "PICKED_UP")), .resume 1 {}, .resume 1 {}, .resume 1 {}]

/-- A flush that reads the queue and sends the photo, which the server accepts. -/
def photoAccepted (index : Nat) : List (LoopEvent Entry Answer PhoneEvent) :=
  [.call (.flushOfflineQueue { account := "Alice", expiresAt := 900 }),
    .resume index {}, .resume index {}, .resume index {}]

/-- The photo is deleted, the pickup sent, and the queue written. -/
def photoDeleted (index : Nat) : List (LoopEvent Entry Answer PhoneEvent) :=
  [.resume index {}, .resume index {}, .resume index {}]

/-- The deletion throws, and the queue is written. -/
def deletionThrows (index : Nat) : List (LoopEvent Entry Answer PhoneEvent) :=
  [.resume index { undeletable := [0] }, .resume index {}]

/-- The process dies in the middle of a flush, and what was to be sent is sent by the next. -/
theorem sentOnce_afterCrash :
    Throughout app.step (fun loop => Quiet loop.tasks → SentOnce loop.shared) ⟨{}, []⟩
      (photoQueued ++ (photoAccepted 2).take 3 ++ .crash :: photoAccepted 0 ++ photoDeleted 0) :=
  sentOnce_throughout _ (by decide +kernel)

/-- The deletion of a photo that was accepted throws, and the photo is sent again and again. -/
theorem photo_sent_again :
    Along app.step OneAtATime ⟨{}, []⟩
      (photoQueued ++ photoAccepted 2 ++ deletionThrows 2 ++ photoAccepted 3 ++ deletionThrows 3) ∧
    ¬ (Quiet (run app.step ⟨{}, []⟩ (photoQueued ++ photoAccepted 2 ++ deletionThrows 2 ++
        photoAccepted 3 ++ deletionThrows 3)).tasks →
      SentOnce (run app.step ⟨{}, []⟩ (photoQueued ++ photoAccepted 2 ++ deletionThrows 2 ++
        photoAccepted 3 ++ deletionThrows 3)).shared) := by
  constructor
  · decide +kernel
  · intro once
    -- The photo is accepted twice under one number.
    have twice := (once (by decide +kernel)).once
      { serial := 0, owner := some "Alice", action := .deliveryPhoto 1 0 "photo.jpg" "image/jpeg" none 0 }
    revert twice
    decide +kernel

end Freight.Driver
