import Freight.Library.EventLoop

/-! The telemetry queue: `enqueue`, the flush timer, `flushQueue` and `shutdown`, an await at a time. -/

namespace Freight.Telemetry

/--
What the closures of `createTelemetryQueue` share, and the list behind them.

What is asked of the list takes effect in the order it is asked, whatever its answers wait for: so the list is
written as each call leaves it, and what a call will be answered with is kept until it is.
-/
structure QueueState (α : Type*) where
  queue : List α := []
  /-- `flushTimer` is set. -/
  flushTimer : Bool := false
  draining : Bool := false
  /-- `shutdown()` has been called. -/
  closing : Bool := false

/-- `DEFAULT_BATCH_SIZE`. -/
def defaultBatchSize : Nat := 100

/-- Who awaits `flushQueue`. -/
inductive Awaiter where
  | timer
  | shutdown
  deriving DecidableEq

/-- How far a drain has come, by what it awaits. -/
inductive FlushCall (α : Type*) where
  /-- `listLength`, and what it has found. -/
  | measured (length : Nat)
  /-- `listPopBatch`, and what it has taken. -/
  | popped (batch : List α)
  /-- `processTelemetryItem`, of the first of these. -/
  | process (batch : List α)
  deriving DecidableEq

/-- What runs on the loop, by what it awaits. -/
inductive QueueTask (α : Type*) where
  /-- `enqueue` is about to be called. -/
  | enqueue (item : α)
  /-- `listPush`, which works: a flush is scheduled next. -/
  | schedule
  /-- The callback of a timer that may have been cleared by now. -/
  | timer
  | flush (awaiter : Awaiter) (call : FlushCall α)
  /-- The callback goes on behind its flush. -/
  | remeasure
  | remeasured (length : Nat)
  /-- `shutdown()` is about to be called. -/
  | shutdown
  /-- The promise of `shutdown()` has resolved. -/
  | resolved
  | done
  deriving DecidableEq

/-- What is called. -/
inductive QueueEntry (α : Type*) where
  | enqueue (item : α)
  | timer
  | shutdown
  deriving DecidableEq

/-- Whether `listPush` works. What else is awaited has no errors that get out. -/
inductive PushAnswer where
  | works
  | fails
  deriving DecidableEq

variable {α : Type*}

/-- Where a call begins. -/
def QueueEntry.start : QueueEntry α → QueueTask α
  | .enqueue item => .enqueue item
  | .timer => .timer
  | .shutdown => .shutdown

/-- Where whoever awaited `flushQueue` goes on. -/
def Awaiter.goesOn : Awaiter → QueueTask α
  | .timer => .remeasure
  | .shutdown => .resolved

namespace QueueState

variable (state : QueueState α)

/-- `flushQueue`, up to its first await: it returns at once where a drain is running. -/
def flushQueue (awaiter : Awaiter) : QueueState α × QueueTask α :=
  if state.draining then (state, awaiter.goesOn)
  else ({ state with draining := true }, .flush awaiter (.measured state.queue.length))

/-- `scheduleFlush`: one timer at most. -/
def scheduleFlush : QueueState α := { state with flushTimer := true }

/-- The items of a batch one after another, and behind the last the length once more. -/
def nextItem (awaiter : Awaiter) (batch : List α) : QueueTask α :=
  if batch.isEmpty then .flush awaiter (.measured state.queue.length) else .flush awaiter (.process batch)

/-- A drain from one await to the next. -/
def drain (awaiter : Awaiter) : FlushCall α → QueueState α × QueueTask α
  | .measured length =>
    if 0 < length then
      ({ state with queue := state.queue.drop defaultBatchSize },
        .flush awaiter (.popped (state.queue.take defaultBatchSize)))
    else ({ state with draining := false }, awaiter.goesOn)
  | .popped batch => (state, state.nextItem awaiter batch)
  -- An item whose processing fails is logged, and the next one follows.
  | .process batch => (state, state.nextItem awaiter batch.tail)

/-- A task from one await to the next. -/
def resume (answer : PushAnswer) : QueueTask α → QueueState α × QueueTask α
  -- What is asked of the list takes effect when it is asked; the answer comes later.
  | .enqueue item =>
    match answer with
    | .works => ({ state with queue := state.queue ++ [item] }, .schedule)
    | .fails => (state, .done)
  -- Behind its push an enqueue sees to it that a flush is scheduled.
  | .schedule => (state.scheduleFlush, .done)
  | .timer =>
    if state.flushTimer then { state with flushTimer := false }.flushQueue .timer else (state, .done)
  | .flush awaiter call => state.drain awaiter call
  -- Behind its drain a flush looks whether more has come in.
  | .remeasure => (state, .remeasured state.queue.length)
  | .remeasured length => if 0 < length then (state.scheduleFlush, .done) else (state, .done)
  | .shutdown => { state with flushTimer := false, closing := true }.flushQueue .shutdown
  | .resolved => (state, .resolved)
  | .done => (state, .done)

end QueueState

/-- The queue of one process. What it holds is lost with it. -/
def telemetryQueue (α : Type*) :
    EventLoop (QueueState α) (QueueEntry α) (QueueTask α) PushAnswer Empty where
  start := QueueEntry.start
  resume := fun state answer task => state.resume answer task
  outside := fun event _ => event.elim
  crash := fun _ => {}

end Freight.Telemetry
