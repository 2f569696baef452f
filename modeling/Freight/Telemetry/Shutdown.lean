import Freight.Telemetry.Drain

/-! What is left in the telemetry queue, while it is open and once it has been shut down. -/

namespace Freight.Telemetry

variable {α : Type*} {state later : QueueState α} {task next : QueueTask α} {others tasks : List (QueueTask α)}
  {answer : PushAnswer}

/-- A drain is under way. -/
def QueueTask.drains : QueueTask α → Bool
  | .flush _ _ => true
  | _ => false

/-- It sees to it that what is queued gets flushed: it drains, or is about to schedule a flush. -/
def QueueTask.tends : QueueTask α → Bool
  | .flush _ _ | .schedule | .remeasure => true
  | .remeasured length => 0 < length
  | _ => false

/-- It comes after a call of `shutdown()`. -/
def QueueTask.closes : QueueTask α → Bool
  | .flush .shutdown _ | .resolved => true
  | _ => false

/-- The items it has taken out of the queue, and is still processing. -/
def QueueTask.held : QueueTask α → List α
  | .flush _ (.popped batch) | .flush _ (.process batch) => batch
  | _ => []

/-- It has come to the end of a call of `shutdown()`, or has found nothing more to do there. -/
def QueueTask.ends : QueueTask α → Bool
  | .flush .shutdown (.measured length) => length = 0
  | .resolved => true
  | _ => false

/-- Outside shutdown, what is queued has a timer pending, or a task that sees to it. -/
def Watched (state : QueueState α) (tasks : List (QueueTask α)) : Prop :=
  state.queue ≠ [] → state.closing = true ∨ state.flushTimer = true ∨ ∃ task ∈ tasks, task.tends = true

/-- Once `shutdown()` has resolved, nothing is queued, and nothing is still being processed. -/
def Settled (state : QueueState α) (tasks : List (QueueTask α)) : Prop :=
  .resolved ∈ tasks → state.queue = [] ∧ ∀ task ∈ tasks, task.held = []

/-- What keeps the queue watched. -/
structure Tended (state : QueueState α) (tasks : List (QueueTask α)) : Prop where
  watched : Watched state tasks
  /-- There is one drain where the flag is set, and none where it is not. -/
  one : tasks.countP QueueTask.drains = state.draining.toNat
  closing : ∀ task ∈ tasks, task.closes = true → state.closing = true

/-- A task that moves on keeps the queue watched: by what it does, or by leaving to others what they do. -/
theorem Tended.moves (inv : Tended state (task :: others))
    (drains : next.drains.toNat + state.draining.toNat = task.drains.toNat + later.draining.toNat)
    (closes : next.closes = true → later.closing = true)
    (closing : state.closing = true → later.closing = true)
    (tends : later.queue ≠ [] → later.closing = true ∨ later.flushTimer = true ∨ next.tends = true ∨
      (state.queue ≠ [] ∧ task.tends = false ∧ (state.flushTimer = true → later.flushTimer = true))) :
    Tended later (next :: others) where
  watched := by
    intro queued
    rcases tends queued with closed | timer | itself | ⟨before, idle, timer⟩
    · exact .inl closed
    · exact .inr (.inl timer)
    · exact .inr (.inr ⟨next, List.mem_cons_self, itself⟩)
    · -- What tended to the queue before still does, for it was not the task that moved.
      rcases inv.watched before with closed | set | ⟨other, member, tending⟩
      · exact .inl (closing closed)
      · exact .inr (.inl (timer set))
      · rcases List.mem_cons.mp member with rfl | among
        · rw [idle] at tending
          cases tending
        · exact .inr (.inr ⟨other, List.mem_cons_of_mem _ among, tending⟩)
  one := by
    have one := inv.one
    rw [List.countP_cons] at one ⊢
    -- What drains is counted, and the flag follows the count.
    cases first : task.drains <;> cases second : next.drains <;>
      simp only [first, second, Bool.toNat_true, Bool.toNat_false, if_true, if_false,
        Bool.false_eq_true] at one drains ⊢ <;> omega
  closing := by
    intro other member called
    rcases List.mem_cons.mp member with rfl | among
    · exact closes called
    · exact closing (inv.closing other (List.mem_cons_of_mem _ among) called)

/-- A drain that is begun, or found running, keeps the queue watched. -/
theorem Tended.flushQueue (inv : Tended state (task :: others)) (idle : task.drains = false)
    {awaiter : Awaiter} (draining : later.draining = state.draining)
    (closing : state.closing = true → later.closing = true)
    (called : awaiter = .shutdown → later.closing = true) :
    Tended (later.flushQueue awaiter).1 ((later.flushQueue awaiter).2 :: others) := by
  unfold QueueState.flushQueue
  cases running : later.draining with
  | true =>
    -- Another drain is running: whoever asked for one goes on at once.
    simp only [if_true]
    refine inv.moves ?_ ?_ closing fun _ => ?_
    · rw [idle, ← draining, running]
      cases awaiter <;> rfl
    · cases awaiter with
      | timer => exact fun closes => by cases closes
      | shutdown => exact fun _ => called rfl
    · cases awaiter with
      | timer => exact .inr (.inr (.inl rfl))
      | shutdown => exact .inl (called rfl)
  | false =>
    simp only [Bool.false_eq_true, if_false]
    refine inv.moves ?_ ?_ closing fun _ => .inr (.inr (.inl rfl))
    · rw [idle, ← draining, running]
      rfl
    · cases awaiter with
      | timer => exact fun closes => by cases closes
      | shutdown => exact fun _ => called rfl

/-- A drain keeps the queue watched, and leaves it to whoever awaited it. -/
theorem Tended.drain {awaiter : Awaiter} {call : FlushCall α}
    (inv : Tended state (.flush awaiter call :: others)) :
    Tended (state.drain awaiter call).1 ((state.drain awaiter call).2 :: others) := by
  -- A drain that the shutdown awaits runs while the queue is closing.
  have called : awaiter = .shutdown → state.closing = true := by
    rintro rfl
    exact inv.closing _ List.mem_cons_self rfl
  have stays {call' : FlushCall α} :
      (QueueTask.flush awaiter call').closes = true → state.closing = true := by
    cases awaiter with
    | timer => exact fun closes => by cases closes
    | shutdown => exact fun _ => called rfl
  have goes {call' : FlushCall α} {queue : List α} :
      Tended { state with queue := queue } (.flush awaiter call' :: others) :=
    inv.moves rfl stays id fun _ => .inr (.inr (.inl rfl))
  have next {batch : List α} : Tended state (state.nextItem awaiter batch :: others) := by
    unfold QueueState.nextItem
    split <;> exact goes
  cases call with
  | popped batch => exact next
  | process batch => exact next
  | measured length =>
    by_cases more : 0 < length
    · simp only [QueueState.drain, if_pos more]
      exact goes
    · -- The drain is over.
      simp only [QueueState.drain, if_neg more]
      -- This drain is running, so the flag is up.
      have running : state.draining = true := by
        have one := inv.one
        rw [List.countP_cons_of_pos rfl] at one
        cases drains : state.draining with
        | true => rfl
        | false =>
          rw [drains] at one
          cases one
      refine inv.moves ?_ ?_ id fun _ => ?_
      · rw [running]
        cases awaiter <;> rfl
      · cases awaiter with
        | timer => exact fun closes => by cases closes
        | shutdown => exact fun _ => called rfl
      · cases awaiter with
        | timer => exact .inr (.inr (.inl rfl))
        | shutdown => exact .inl (called rfl)

/-- Every task keeps the queue watched. -/
theorem Tended.resume (inv : Tended state (task :: others)) :
    Tended (state.resume answer task).1 ((state.resume answer task).2 :: others) := by
  cases task with
  | enqueue item =>
    cases answer with
    | works => exact inv.moves rfl (fun closes => by cases closes) id fun _ => .inr (.inr (.inl rfl))
    | fails =>
      exact inv.moves rfl (fun closes => by cases closes) id
        fun queued => .inr (.inr (.inr ⟨queued, rfl, id⟩))
  | schedule => exact inv.moves rfl (fun closes => by cases closes) id fun _ => .inr (.inl rfl)
  -- The timer flushes, unless it has been cleared.
  | timer =>
    by_cases set : state.flushTimer
    · simp only [QueueState.resume, if_pos set]
      exact inv.flushQueue rfl rfl id fun mine => by cases mine
    · simp only [QueueState.resume, if_neg set]
      exact inv.moves rfl (fun closes => by cases closes) id
        fun queued => .inr (.inr (.inr ⟨queued, rfl, id⟩))
  | flush awaiter call => exact inv.drain
  | remeasure =>
    -- What it finds queued it schedules a flush for.
    exact inv.moves rfl (fun closes => by cases closes) id fun queued =>
      .inr (.inr (.inl (decide_eq_true (List.length_pos_iff.mpr queued))))
  -- Where nothing is left, nothing has to be scheduled.
  | remeasured length =>
    by_cases more : 0 < length
    · simp only [QueueState.resume, if_pos more]
      exact inv.moves rfl (fun closes => by cases closes) id fun _ => .inr (.inl rfl)
    · simp only [QueueState.resume, if_neg more]
      exact inv.moves rfl (fun closes => by cases closes) id
        fun queued => .inr (.inr (.inr ⟨queued, decide_eq_false more, id⟩))
  -- The last flush of a shutdown drains all that is there.
  | shutdown => exact inv.flushQueue rfl rfl (fun _ => rfl) fun _ => rfl
  | resolved =>
    exact inv.moves rfl (fun _ => inv.closing _ List.mem_cons_self rfl) id
      fun queued => .inr (.inr (.inr ⟨queued, rfl, id⟩))
  | done => exact inv.moves rfl (fun closes => by cases closes) id fun queued => .inr (.inr (.inr ⟨queued, rfl, id⟩))

/-- In every interleaving the queue is watched. -/
theorem tended_keeps : (telemetryQueue α).Keeps Tended fun _ _ => True where
  perm := by
    intro state tasks tasks' same inv
    refine ⟨fun queued => ?_, ?_, fun task member => inv.closing task (same.mem_iff.mpr member)⟩
    · rcases inv.watched queued with closed | timer | ⟨task, member, tends⟩
      · exact .inl closed
      · exact .inr (.inl timer)
      · exact .inr (.inr ⟨task, same.mem_iff.mp member, tends⟩)
    · rw [← same.countP_eq]
      exact inv.one
  resumes := fun _ inv _ => inv.resume
  calls := by
    intro loop entry inv _
    -- A call that has just begun neither drains nor closes.
    have fresh : (entry.start : QueueTask α).drains = false ∧ (entry.start : QueueTask α).closes = false := by
      cases entry <;> exact ⟨rfl, rfl⟩
    refine ⟨fun queued => ?_, ?_, fun task member called => ?_⟩
    · rcases inv.watched queued with closed | timer | ⟨task, member, tends⟩
      · exact .inl closed
      · exact .inr (.inl timer)
      · exact .inr (.inr ⟨task, List.mem_cons_of_mem _ member, tends⟩)
    · exact (List.countP_cons_of_neg (by simp [telemetryQueue, fresh.1])).trans inv.one
    · rcases List.mem_cons.mp member with rfl | among
      · rw [show (telemetryQueue α).start entry = entry.start from rfl, fresh.2] at called
        cases called
      · exact inv.closing task among called
  happens := fun {_ event} _ _ => event.elim
  crashes := fun _ _ => ⟨fun queued => absurd rfl queued, rfl, fun _ member => absurd member List.not_mem_nil⟩

/-- Without a drain under way, nothing is held. -/
theorem held_of_idle (idle : ∀ task ∈ tasks, task.drains = false) : ∀ task ∈ tasks, task.held = [] := by
  -- Only a flush holds items, and every flush drains.
  intro task member
  have quiet := idle task member
  cases task with
  | flush awaiter call => cases quiet
  | _ => rfl

/-- Beside the one drain, nothing is held. -/
theorem Tended.held_others (inv : Tended state (task :: others)) (running : state.draining = task.drains) :
    ∀ other ∈ others, other.held = [] := by
  -- One task drains where the flag is up and none where it is down, and this is that one.
  apply held_of_idle
  intro other member
  have one := inv.one
  rw [List.countP_cons, running] at one
  have none_ : others.countP QueueTask.drains = 0 := by
    cases drains : task.drains <;> simp only [drains, Bool.toNat_true, Bool.toNat_false, if_true, if_false,
      Bool.false_eq_true] at one <;> omega
  exact Bool.eq_false_iff.mpr (List.countP_eq_zero.mp none_ other member)

/-- A drain under way has raised the flag. -/
theorem Tended.draining (inv : Tended state (task :: others)) (drains : task.drains = true) :
    state.draining = true := by
  -- There is a drain, and with the flag down there would be none.
  have one := inv.one
  rw [List.countP_cons_of_pos drains] at one
  cases flag : state.draining with
  | true => rfl
  | false =>
    rw [flag] at one
    cases one

/-- Where a shutdown has come to its end, nothing is queued, and nothing is being processed. -/
def Ended (state : QueueState α) (tasks : List (QueueTask α)) : Prop :=
  (∃ task ∈ tasks, task.ends = true) → state.queue = [] ∧ ∀ task ∈ tasks, task.held = []

/-- What comes to its end comes after the call. -/
theorem closes_of_ends (ends : task.ends = true) : task.closes = true := by
  -- Of the flushes it is the one that the shutdown waits for.
  cases task with
  | flush awaiter call =>
    cases awaiter with
    | timer => cases ends
    | shutdown => rfl
  | resolved => rfl
  | _ => cases ends

/-- A promise that has resolved is at its end, so nothing is left behind it. -/
theorem Ended.settled (ended : Ended state tasks) : Settled state tasks :=
  fun resolved => ended ⟨.resolved, resolved, rfl⟩

/-- A task that moves on keeps it so: it queues nothing, and comes to an end only where nothing is left. -/
theorem Ended.moves (ended : Ended state (task :: others)) (queue : state.queue = [] → later.queue = [])
    (holds : state.queue = [] → task.held = [] → next.held = [])
    (ends : next.ends = true → task.ends = true ∨
      later.queue = [] ∧ next.held = [] ∧ ∀ other ∈ others, other.held = []) :
    Ended later (next :: others) := by
  -- Where something had come to an end already, there was nothing left before the task moved.
  have already : (∃ one ∈ task :: others, one.ends = true) →
      later.queue = [] ∧ ∀ one ∈ next :: others, one.held = [] := by
    intro before
    obtain ⟨empty, none_⟩ := ended before
    refine ⟨queue empty, fun one member => ?_⟩
    rcases List.mem_cons.mp member with rfl | among
    · exact holds empty (none_ task List.mem_cons_self)
    · exact none_ one (List.mem_cons_of_mem _ among)
  rintro ⟨one, member, finished⟩
  rcases List.mem_cons.mp member with rfl | among
  · rcases ends finished with before | ⟨empty, own, rest⟩
    · exact already ⟨task, List.mem_cons_self, before⟩
    · refine ⟨empty, fun other listed => ?_⟩
      rcases List.mem_cons.mp listed with rfl | within
      · exact own
      · exact rest other within
  · exact already ⟨one, List.mem_cons_of_mem _ among, finished⟩

/-- An item of a batch that is done leads to the next one, or to a look at the length. -/
theorem Ended.nextItem {awaiter : Awaiter} {batch : List α} (inv : Tended state (task :: others))
    (ended : Ended state (task :: others)) (drains : task.drains = true) (rest : task.held = [] → batch = []) :
    Ended state (state.nextItem awaiter batch :: others) := by
  have alone := inv.held_others ((inv.draining drains).trans drains.symm)
  unfold QueueState.nextItem
  cases batch with
  | nil =>
    refine ended.moves id (fun _ _ => rfl) fun ends => .inr ⟨?_, rfl, alone⟩
    -- The length it finds is nothing.
    cases awaiter with
    | timer => cases ends
    | shutdown => exact List.length_eq_zero_iff.mp (of_decide_eq_true ends)
  | cons first others =>
    refine ended.moves id (fun _ held => rest held) fun ends => ?_
    cases awaiter <;> cases ends

/-- What `shutdown()` finds running when it is called has nothing left to do. -/
def QueueTask.InTime (state : QueueState α) (tasks : List (QueueTask α)) : QueueTask α → Prop
  | .shutdown => state.draining = true → state.queue = [] ∧ ∀ task ∈ tasks, task.held = []
  | _ => True

/-- If it is an enqueue that starts, `shutdown()` has not been called. -/
def QueueTask.StartsOpen (state : QueueState α) : QueueTask α → Prop
  | .enqueue _ => state.closing = false
  | _ => True

instance (task : QueueTask α) : Decidable (task.StartsOpen state) :=
  match task with
  | .enqueue _ => inferInstanceAs (Decidable (state.closing = false))
  | .schedule | .timer | .flush _ _ | .remeasure | .remeasured _ | .shutdown | .resolved | .done => isTrue trivial

instance [DecidableEq α] (task : QueueTask α) : Decidable (task.InTime state tasks) :=
  match task with
  | .shutdown => inferInstanceAs (Decidable (state.draining = true → state.queue = [] ∧ ∀ task ∈ tasks, _))
  | .enqueue _ | .schedule | .timer | .flush _ _ | .remeasure | .remeasured _ | .resolved | .done => isTrue trivial

/-- A task leaves nothing behind a shutdown, where nothing is enqueued any more and the call comes in time. -/
theorem Ended.resume (inv : Tended state (task :: others)) (ended : Ended state (task :: others))
    (open_ : task.StartsOpen state) (in_time : task.InTime state (task :: others)) :
    Ended (state.resume answer task).1 ((state.resume answer task).2 :: others) := by
  cases task with
  | enqueue item =>
    cases answer with
    | fails => exact ended.moves id (fun _ _ => rfl) fun ends => by cases ends
    | works =>
      -- No shutdown has been called yet, so none is at its end.
      rintro ⟨one, member, ends⟩
      rcases List.mem_cons.mp member with rfl | among
      · cases ends
      · have closing := inv.closing one (List.mem_cons_of_mem _ among) (closes_of_ends ends)
        rw [show state.closing = false from open_] at closing
        cases closing
  | shutdown =>
    simp only [QueueState.resume, QueueState.flushQueue]
    cases running : state.draining with
    | true =>
      simp only [if_true]
      obtain ⟨empty, none_⟩ := in_time running
      exact ended.moves id (fun _ _ => rfl) fun _ =>
        .inr ⟨empty, rfl, fun other member => none_ other (List.mem_cons_of_mem _ member)⟩
    | false =>
      simp only [Bool.false_eq_true, if_false]
      -- Its own drain is the only one.
      exact ended.moves id (fun _ _ => rfl) fun ends =>
        .inr ⟨List.length_eq_zero_iff.mp (of_decide_eq_true ends), rfl, inv.held_others running⟩
  | flush awaiter call =>
    cases call with
    | popped batch => exact Ended.nextItem inv ended rfl id
    | process batch =>
      refine Ended.nextItem inv ended rfl fun held => ?_
      rw [show batch = [] from held]
      rfl
    | measured length =>
      simp only [QueueState.resume, QueueState.drain]
      by_cases more : 0 < length
      · rw [if_pos more]
        refine ended.moves (fun empty => ?_) (fun empty _ => ?_) fun ends => by cases awaiter <;> cases ends
        · simp only [empty, List.drop_nil]
        · simp only [QueueTask.held, empty, List.take_nil]
      · rw [if_neg more]
        refine ended.moves id (fun _ _ => by cases awaiter <;> rfl) fun ends => .inl ?_
        cases awaiter with
        | timer => cases ends
        | shutdown => exact decide_eq_true (Nat.eq_zero_of_not_pos more)
  | timer =>
    simp only [QueueState.resume, QueueState.flushQueue]
    repeat' split
    all_goals exact ended.moves id (fun _ _ => rfl) fun ends => by cases ends
  | remeasured length =>
    simp only [QueueState.resume]
    split <;> exact ended.moves id (fun _ _ => rfl) fun ends => by cases ends
  | schedule | remeasure | done => exact ended.moves id (fun _ _ => rfl) fun ends => by cases ends
  | resolved => exact ended

/-- No enqueue starts once `shutdown()` has been called. -/
def NoneStarts (loop : Loop (QueueState α) (QueueTask α)) : LoopEvent (QueueEntry α) PushAnswer Empty → Prop
  | .resume index _ => ∀ task ∈ loop.tasks[index]?, task.StartsOpen loop.shared
  | _ => True

/-- Whenever `shutdown()` is called, no drain is running, or the one that is has nothing left to do. -/
def InTime (loop : Loop (QueueState α) (QueueTask α)) : LoopEvent (QueueEntry α) PushAnswer Empty → Prop
  | .resume index _ => ∀ task ∈ loop.tasks[index]?, task.InTime loop.shared loop.tasks
  | _ => True

instance (loop : Loop (QueueState α) (QueueTask α)) (event : LoopEvent (QueueEntry α) PushAnswer Empty) :
    Decidable (NoneStarts loop event) :=
  match event with
  | .resume index _ => inferInstanceAs (Decidable (∀ task ∈ loop.tasks[index]?, _))
  | .call _ | .outside _ | .crash => isTrue trivial

instance [DecidableEq α] (loop : Loop (QueueState α) (QueueTask α))
    (event : LoopEvent (QueueEntry α) PushAnswer Empty) : Decidable (InTime loop event) :=
  match event with
  | .resume index _ => inferInstanceAs (Decidable (∀ task ∈ loop.tasks[index]?, _))
  | .call _ | .outside _ | .crash => isTrue trivial

/-- Whether a call comes in time depends on the tasks there are, not on their order. -/
theorem inTime_perm {tasks' : List (QueueTask α)} (same : tasks.Perm tasks') (in_time : task.InTime state tasks) :
    task.InTime state tasks' := by
  -- It asks whether a drain is under way, and of every other task the same.
  cases task with
  | shutdown =>
    intro running
    exact ⟨(in_time running).1, fun other member => (in_time running).2 other (same.mem_iff.mpr member)⟩
  | _ => trivial

/-- Nor does it matter to what has come to its end. -/
theorem ended_perm {tasks' : List (QueueTask α)} (same : tasks.Perm tasks') (ended : Ended state tasks) :
    Ended state tasks' := by
  -- It asks whether some task has ended, and of every task the same.
  rintro ⟨task, member, ends⟩
  obtain ⟨empty, none_⟩ := ended ⟨task, same.mem_iff.mpr member, ends⟩
  exact ⟨empty, fun other listed => none_ other (same.mem_iff.mpr listed)⟩

/-- One event leaves nothing behind, where nothing is enqueued any more and a shutdown comes in time. -/
theorem ended_step {loop : Loop (QueueState α) (QueueTask α)} {event : LoopEvent (QueueEntry α) PushAnswer Empty}
    (inv : Tended loop.shared loop.tasks) (ended : Ended loop.shared loop.tasks) (starts : NoneStarts loop event)
    (in_time : InTime loop event) :
    Ended ((telemetryQueue α).step loop event).shared ((telemetryQueue α).step loop event).tasks := by
  cases event with
  | outside event => exact event.elim
  | crash => exact fun ⟨_, member, _⟩ => absurd member List.not_mem_nil
  | call entry =>
    -- A call that is about to be made has neither come to its end nor taken anything out.
    have fresh : (entry.start : QueueTask α).ends = false ∧ (entry.start : QueueTask α).held = [] := by
      cases entry <;> exact ⟨rfl, rfl⟩
    rintro ⟨task, member, ends⟩
    rcases List.mem_append.mp member with among | new
    · obtain ⟨empty, none_⟩ := ended ⟨task, among, ends⟩
      refine ⟨empty, fun other listed => ?_⟩
      rcases List.mem_append.mp listed with within | own
      · exact none_ other within
      · rw [List.mem_singleton.mp own]
        exact fresh.2
    · rw [List.mem_singleton.mp new] at ends
      exact absurd ends (Bool.eq_false_iff.mp fresh.1)
  | resume index answer =>
    cases found : loop.tasks[index]? with
    | none =>
      rw [EventLoop.step_resume_none answer found]
      exact ended
    | some task =>
      -- What is resumed is one of the tasks, and the others stay.
      obtain ⟨others, all, shared, new⟩ := @EventLoop.step_resume_found _ _ _ _ _ (telemetryQueue α)
        loop index task answer found
      rw [shared]
      refine ended_perm new.symm (Ended.resume (tended_keeps.perm all inv) (ended_perm all ended) ?_ ?_)
      · exact starts task found
      · exact inTime_perm all (in_time task found)

/-- A shutdown that has left nothing behind was called in time. -/
theorem inTime_of_settled {loop : Loop (QueueState α) (QueueTask α)}
    {event : LoopEvent (QueueEntry α) PushAnswer Empty}
    (settled : Settled ((telemetryQueue α).step loop event).shared ((telemetryQueue α).step loop event).tasks) :
    InTime loop event := by
  cases event with
  | outside event => exact event.elim
  | crash | call => trivial
  | resume index answer =>
    intro task found
    cases task with
    | shutdown =>
      intro running
      obtain ⟨others, all, shared, new⟩ := @EventLoop.step_resume_found _ _ _ _ _ (telemetryQueue α)
        loop index .shutdown answer found
      have resolves : (telemetryQueue α).resume loop.shared answer .shutdown =
          ({ loop.shared with flushTimer := false, closing := true }, .resolved) := by
        simp only [telemetryQueue, QueueState.resume, QueueState.flushQueue, running, if_true]
        rfl
      rw [resolves] at shared new
      -- It resolves at once, and finds things as they are.
      obtain ⟨empty, none_⟩ := settled (new.mem_iff.mpr List.mem_cons_self)
      rw [shared] at empty
      refine ⟨empty, fun other member => ?_⟩
      rcases List.mem_cons.mp (all.mem_iff.mp member) with rfl | among
      · rfl
      · exact none_ other (new.mem_iff.mpr (List.mem_cons_of_mem _ among))
    | _ => trivial

/--
Outside shutdown nothing queued is forgotten. Where no enqueue starts behind it, shutdown leaves nothing behind
exactly if the drain it finds running, if any, has nothing left to do.
-/
theorem drained_iff (events : List (LoopEvent (QueueEntry α) PushAnswer Empty)) :
    Throughout (telemetryQueue α).step (fun loop => Watched loop.shared loop.tasks) ⟨{}, []⟩ events ∧
      (Along (telemetryQueue α).step NoneStarts ⟨{}, []⟩ events →
        (Throughout (telemetryQueue α).step (fun loop => Settled loop.shared loop.tasks) ⟨{}, []⟩ events ↔
          Along (telemetryQueue α).step InTime ⟨{}, []⟩ events)) := by
  have initial : Tended ({} : QueueState α) [] :=
    ⟨fun queued => absurd rfl queued, rfl, fun _ member => absurd member List.not_mem_nil⟩
  constructor
  · exact (tended_keeps.throughout initial (along_of_forall (fun _ _ => trivial) _ events)).mono
      fun _ inv => inv.watched
  · intro starts
    have ended : Ended ({} : QueueState α) [] := fun ⟨_, member, _⟩ => absurd member List.not_mem_nil
    -- The queue stays watched on the way, and what comes to an end leaves nothing.
    exact @throughout_iff_along _ _ _
      (fun loop => Tended loop.shared loop.tasks ∧ Ended loop.shared loop.tasks) _ _ _
      (fun _ inv => inv.2.settled)
      (fun _ _ _ _ settled => inTime_of_settled settled)
      (fun loop event inv starts in_time => ⟨tended_keeps.step loop event inv.1 trivial,
        ended_step inv.1 inv.2 starts in_time⟩)
      ⟨{}, []⟩ events ⟨initial, ended⟩ starts

/-- One item is flushed by its timer, and another by the shutdown that comes before the second timer. -/
def flushedTwice : List (LoopEvent (QueueEntry Nat) PushAnswer Empty) :=
  [.call (.enqueue 7), .resume 0 .works, .resume 0 .works, .call .timer, .resume 1 .works, .resume 1 .works,
    .resume 1 .works, .resume 1 .works, .resume 1 .works, .resume 1 .works, .resume 1 .works,
    .call (.enqueue 8), .resume 2 .works, .resume 2 .works, .call .shutdown, .resume 3 .works, .resume 3 .works,
    .resume 3 .works, .resume 3 .works, .resume 3 .works]

/-- Nothing is left of either when the promise resolves. -/
theorem drained_iff_flushedTwice :
    Throughout (telemetryQueue Nat).step (fun loop => Settled loop.shared loop.tasks) ⟨{}, []⟩ flushedTwice ∧
      (run (telemetryQueue Nat).step ⟨{}, []⟩ flushedTwice).tasks = [.done, .done, .done, .resolved] := by
  -- No enqueue starts behind the shutdown, and the shutdown finds no drain running.
  have starts : Along (telemetryQueue Nat).step NoneStarts ⟨{}, []⟩ flushedTwice := by decide +kernel
  have in_time : Along (telemetryQueue Nat).step InTime ⟨{}, []⟩ flushedTwice := by decide +kernel
  exact ⟨((drained_iff flushedTwice).2 starts).mpr in_time, by decide +kernel⟩

/-- A shutdown while a drain is processing an item it has taken out. -/
def duringDrain : List (LoopEvent (QueueEntry Nat) PushAnswer Empty) :=
  [.call (.enqueue 7), .resume 0 .works, .resume 0 .works, .call .timer, .resume 1 .works, .resume 1 .works,
    .resume 1 .works, .call .shutdown, .resume 2 .works]

/-- It leaves the item in processing, with nothing enqueued behind it. -/
theorem left_behind :
    Along (telemetryQueue Nat).step NoneStarts ⟨{}, []⟩ duringDrain ∧
      ¬ Throughout (telemetryQueue Nat).step (fun loop => Settled loop.shared loop.tasks) ⟨{}, []⟩
        duringDrain := by
  refine ⟨by decide +kernel, fun throughout => ?_⟩
  -- The item was popped, and is still being processed.
  have held := (throughout.last (by decide +kernel)).2 (.flush .timer (.process [7])) (by decide +kernel)
  cases held

end Freight.Telemetry
