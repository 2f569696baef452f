import Mathlib.Data.List.Perm.Basic
import Freight.Library.Run

/-! Tasks on one event loop: each runs from one await to the next, and a crash ends them all. -/

namespace Freight

/-- A program of tasks that take turns on one event loop. -/
structure EventLoop (W N C A E : Type*) where
  /-- Where a new task begins. -/
  start : N → C
  /-- A task is resumed with an answer, and runs to its next await. -/
  resume : W → A → C → W × C
  /-- What happens to the shared state outside every task. -/
  outside : E → W → W
  /-- What a crash leaves of the shared state. -/
  crash : W → W

/-- The shared state and every task on the loop. -/
structure Loop (W C : Type*) where
  /-- What all tasks read and write. -/
  shared : W
  /-- Each task, at the await it has reached. -/
  tasks : List C

/-- What can happen next on the loop. -/
inductive LoopEvent (N A E : Type*) where
  /-- A function is called. -/
  | call (entry : N)
  /-- The task at an index is resumed. -/
  | resume (index : Nat) (answer : A)
  /-- Something outside every task happens. -/
  | outside (event : E)
  /-- The process dies, and is started again. -/
  | crash
  deriving DecidableEq

namespace EventLoop

variable {W N C A E : Type*} (prog : EventLoop W N C A E)

/-- One event on the loop. -/
def step (loop : Loop W C) : LoopEvent N A E → Loop W C
  | .call entry => { loop with tasks := loop.tasks ++ [prog.start entry] }
  | .outside event => { loop with shared := prog.outside event loop.shared }
  -- What was under way is gone, and what was stored is there.
  | .crash => { shared := prog.crash loop.shared, tasks := [] }
  | .resume index answer =>
    match loop.tasks[index]? with
    | none => loop
    | some task =>
      let next := prog.resume loop.shared answer task
      { shared := next.1, tasks := loop.tasks.set index next.2 }

variable {prog}

/-- A task that is resumed is put in its place among the others. -/
theorem step_resume_found {loop : Loop W C} {index : Nat} {task : C} (answer : A)
    (found : loop.tasks[index]? = some task) :
    ∃ others, loop.tasks.Perm (task :: others) ∧
      (prog.step loop (.resume index answer)).shared = (prog.resume loop.shared answer task).1 ∧
      (prog.step loop (.resume index answer)).tasks.Perm
        ((prog.resume loop.shared answer task).2 :: others) := by
  -- Taken out of its place and put back there, the task stands before the others up to their order.
  obtain ⟨within, same⟩ := List.getElem?_eq_some_iff.mp found
  refine ⟨loop.tasks.eraseIdx index, ?_, ?_, ?_⟩
  · rw [← same]
    exact (List.getElem_cons_eraseIdx_perm within).symm
  · simp [step, found]
  · simpa [step, found] using List.set_perm_cons_eraseIdx within _

/-- A resumption that finds no task changes nothing. -/
theorem step_resume_none {loop : Loop W C} {index : Nat} (answer : A)
    (found : loop.tasks[index]? = none) : prog.step loop (.resume index answer) = loop := by
  -- No task is under that index.
  simp [step, found]

/-- A resumption finds no task, or puts the resumed task in its place among the others. -/
theorem step_resume_cases (loop : Loop W C) (index : Nat) (answer : A) :
    prog.step loop (.resume index answer) = loop ∨
      ∃ task others, loop.tasks[index]? = some task ∧ loop.tasks.Perm (task :: others) ∧
        (prog.step loop (.resume index answer)).shared =
          (prog.resume loop.shared answer task).1 ∧
        (prog.step loop (.resume index answer)).tasks.Perm
          ((prog.resume loop.shared answer task).2 :: others) := by
  -- By whether there is a task under the index.
  cases found : loop.tasks[index]? with
  | none => exact .inl (step_resume_none answer found)
  | some task =>
    obtain ⟨others, all, shared, new⟩ := step_resume_found answer found
    exact .inr ⟨task, others, rfl, all, shared, new⟩

/--
What has to be shown of one task to know what every interleaving keeps.

The invariant speaks of the shared state and of all tasks together, in whatever order they stand.
-/
structure Keeps (prog : EventLoop W N C A E) (inv : W → List C → Prop)
    (admissible : Loop W C → LoopEvent N A E → Prop) : Prop where
  /-- The order of the tasks does not matter. -/
  perm : ∀ {shared tasks tasks'}, tasks.Perm tasks' → inv shared tasks → inv shared tasks'
  /-- A task that is resumed keeps the invariant. -/
  resumes : ∀ {loop : Loop W C} {index answer task others}, loop.tasks[index]? = some task →
    inv loop.shared (task :: others) → admissible loop (.resume index answer) →
    inv (prog.resume loop.shared answer task).1 ((prog.resume loop.shared answer task).2 :: others)
  /-- A function that is called keeps the invariant. -/
  calls : ∀ {loop : Loop W C} {entry}, inv loop.shared loop.tasks → admissible loop (.call entry) →
    inv loop.shared (prog.start entry :: loop.tasks)
  /-- What happens outside the tasks keeps the invariant. -/
  happens : ∀ {loop : Loop W C} {event}, inv loop.shared loop.tasks →
    admissible loop (.outside event) → inv (prog.outside event loop.shared) loop.tasks
  /-- A crash keeps the invariant. -/
  crashes : ∀ {loop : Loop W C}, inv loop.shared loop.tasks → admissible loop .crash →
    inv (prog.crash loop.shared) []

namespace Keeps

variable {inv : W → List C → Prop} {admissible : Loop W C → LoopEvent N A E → Prop}

/-- Every admissible event of the interleaving keeps the invariant. -/
theorem step (keeps : Keeps prog inv admissible) (loop : Loop W C) (event : LoopEvent N A E)
    (holds : inv loop.shared loop.tasks) (admitted : admissible loop event) :
    inv (prog.step loop event).shared (prog.step loop event).tasks := by
  -- Each kind of event has its own clause; the new place of a task is one of its places.
  cases event with
  | call entry => exact keeps.perm (List.perm_append_singleton _ _).symm (keeps.calls holds admitted)
  | outside event => exact keeps.happens holds admitted
  | crash => exact keeps.crashes holds admitted
  | resume index answer =>
    rcases @step_resume_cases _ _ _ _ _ prog loop index answer with
      same | ⟨task, others, found, all, shared, new⟩
    · rw [same]
      exact holds
    · rw [shared]
      exact keeps.perm new.symm (keeps.resumes found (keeps.perm all holds) admitted)

/-- The invariant holds throughout every admissible run that starts in it. -/
theorem throughout (keeps : Keeps prog inv admissible) {loop : Loop W C}
    {events : List (LoopEvent N A E)} (initial : inv loop.shared loop.tasks)
    (along : Along prog.step admissible loop events) :
    Throughout prog.step (fun loop => inv loop.shared loop.tasks) loop events :=
  Along.throughout (fun loop event holds admitted => keeps.step loop event holds admitted) initial along

end Keeps

end EventLoop

end Freight
