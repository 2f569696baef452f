/-! Scripts: a handler at work on one pooled connection, a statement at a time, and how to reason about it. -/

namespace Freight

/-- What a connection has open. -/
inductive Connection (σ : Type) where
  | idle
  /-- A transaction, with what it will have written. -/
  | inTransaction (pending : σ → σ)
  /-- A transaction one statement of which has failed: no other statement runs in it any more. -/
  | aborted

/-- Whether nothing is open on it. -/
def Connection.isIdle {σ : Type} : Connection σ → Bool
  | .idle => true
  | _ => false

/-- The database as one connection finds it. -/
structure Session (σ : Type) where
  committed : σ
  connection : Connection σ

/-- How a piece of a handler ends early. -/
inductive Exit (ρ : Type) where
  | answered (response : ρ)
  | thrown

/-- A piece of a handler. -/
def Script (σ ρ α : Type) := Session σ → Except (Exit ρ) α × Session σ

namespace Script

variable {σ ρ φ α β : Type}

instance : Monad (Script σ ρ) where
  pure value := fun session => (.ok value, session)
  bind first second := fun session =>
    match first session with
    | (.ok value, after) => second value after
    | (.error exit, after) => (.error exit, after)

/-- `return`, before the end. -/
def answer (response : ρ) : Script σ ρ α := fun session => (.error (.answered response), session)

/-- An exception. -/
def throws : Script σ ρ α := fun session => (.error .thrown, session)

/-- `BEGIN`. Where a transaction is open already, it only warns. -/
def begins (fails : Bool) : Script σ ρ Unit := fun session =>
  if fails then (.error .thrown, session)
  else match session.connection with
    | .idle => (.ok (), { session with connection := .inTransaction id })
    | .inTransaction _ => (.ok (), session)
    | .aborted => (.error .thrown, session)

/-- A statement, with the rows it finds; outside a transaction it is committed at once. -/
def statement (fails : Bool) (write : σ → σ) : Script σ ρ σ := fun session =>
  match session.connection with
  | .idle =>
    if fails then (.error .thrown, session)
    else (.ok session.committed, { session with committed := write session.committed })
  -- It reads what the transaction has written, over what is committed by now.
  | .inTransaction pending =>
    if fails then (.error .thrown, { session with connection := .aborted })
    else (.ok (pending session.committed),
      { session with connection := .inTransaction fun state => write (pending state) })
  | .aborted => (.error .thrown, session)

/-- A SELECT. -/
def read (fails : Bool) : Script σ ρ σ := statement fails fun state => state

/-- `COMMIT`. An aborted transaction is rolled back instead, without a word. -/
def commit (fails : Bool) : Script σ ρ Unit := fun session =>
  let exit := if fails then .error .thrown else .ok ()
  match session.connection with
  | .inTransaction pending =>
    (exit, { committed := if fails then session.committed else pending session.committed
             connection := .idle })
  | _ => (exit, { session with connection := .idle })

/-- `ROLLBACK`. -/
def rollback : Script σ ρ Unit := fun session => (.ok (), { session with connection := .idle })

/-- `try { … } catch { }`: an exception is logged, and the handler goes on without a value. -/
def caught (script : Script σ ρ α) : Script σ ρ (Option α) := fun session =>
  match script session with
  | (.ok value, after) => (.ok (some value), after)
  | (.error .thrown, after) => (.ok none, after)
  | (.error (.answered response), after) => (.error (.answered response), after)

/-- `if (…) { … }`. -/
def when (condition : Bool) (script : Script σ ρ Unit) : Script σ ρ Unit := if condition then script else pure ()

/-- A check that answers where it refuses. -/
def orAnswer (check : Except φ α) (response : φ → ρ) : Script σ ρ α :=
  match check with
  | .ok value => pure value
  | .error failure => answer (response failure)

/-- A check that rolls back and answers where it refuses. -/
def orRollback (check : Except φ α) (response : φ → ρ) : Script σ ρ α :=
  match check with
  | .ok value => pure value
  | .error failure => do
    rollback
    answer (response failure)

/-- The handler around its body: whatever is thrown is rolled back, and answered as a failure. -/
def served (failed : ρ) (body : Script σ ρ ρ) (session : Session σ) : ρ × Session σ :=
  match body session with
  | (.ok response, after) => (response, after)
  | (.error (.answered response), after) => (response, after)
  | (.error .thrown, after) => (failed, { after with connection := .idle })

/-- From a session that meets the precondition, a script ends in one that meets what is said of its end. -/
def Meets (before : Session σ → Prop) (script : Script σ ρ α) (after : α → Session σ → Prop)
    (leaves : Exit ρ → Session σ → Prop) : Prop :=
  ∀ session, before session →
    match script session with
    | (.ok value, ended) => after value ended
    | (.error exit, ended) => leaves exit ended

/-- Nothing is open. -/
def Idle (committed : σ) (session : Session σ) : Prop := session = ⟨committed, .idle⟩

/-- A transaction is open, in which the state reads so. -/
def Open (committed working : σ) (session : Session σ) : Prop :=
  ∃ pending, session = ⟨committed, .inTransaction pending⟩ ∧ pending committed = working

/-- A transaction is open, or was until a statement of it failed: what is so in either case. -/
def Held (committed : σ) (aborts : Prop) (is : σ → Prop) (session : Session σ) : Prop :=
  session = ⟨committed, .aborted⟩ ∧ aborts ∨ ∃ working, is working ∧ Open committed working session

variable {before : Session σ → Prop} {after : β → Session σ → Prop} {leaves : Exit ρ → Session σ → Prop}
  {committed working : σ} {fails : Bool}

/-- The end of a script. -/
theorem meets_pure {value : β} (holds : ∀ session, before session → after value session) :
    Meets before (pure value) after leaves :=
  holds

/-- What is known of a session beside where it stands may be used from there on. -/
theorem Meets.knowing {fact : Prop} {script : Script σ ρ β} (meets : fact → Meets before script after leaves) :
    Meets (fun session => before session ∧ fact) script after leaves :=
  fun session holds => meets holds.2 session holds.1

/-- One piece after another. -/
theorem Meets.bind {between : α → Session σ → Prop} {first : Script σ ρ α} {second : α → Script σ ρ β}
    (one : Meets before first between leaves)
    (two : ∀ value, Meets (between value) (second value) after leaves) :
    Meets before (first >>= second) after leaves := by
  intro session holds
  have ended := one session holds
  simp only [Bind.bind]
  revert ended
  cases first session with
  | mk result later =>
    cases result with
    | ok value => exact two value later
    -- What has ended early skips the rest.
    | error exit => exact fun ended => ended

/-- An exception leaves as it is. -/
theorem meets_throws (holds : ∀ session, before session → leaves .thrown session) :
    Meets before throws after leaves :=
  holds

section Rules

variable {second : α → Script σ ρ β}

/-- Past a branch that leaves the session where it is, what it has found out is known if it was taken. -/
theorem Meets.when (fact : Prop) {condition : Bool} {script : Script σ ρ Unit} {second : Unit → Script σ ρ β}
    (taken : condition = true → Meets before script (fun _ session => before session ∧ fact) leaves)
    (rest : (condition = true → fact) → Meets before (second ()) after leaves) :
    Meets before (Script.when condition script >>= second) after leaves := by
  -- Taken or not, the rest begins knowing what the branch would have found out.
  cases passes : condition with
  | true => exact (taken passes).bind fun _ => .knowing fun known => rest fun _ => known
  | false => exact rest fun passed => by rw [passes] at passed; cases passed

/-- Past a check that answers, what it asks for is known. -/
theorem Meets.orAnswer {check : Except φ α} {response : φ → ρ}
    (refused : ∀ failure, check = .error failure → ∀ session, before session →
      leaves (.answered (response failure)) session)
    (passed : ∀ value, check = .ok value → Meets before (second value) after leaves) :
    Meets before (Script.orAnswer check response >>= second) after leaves := by
  -- A check that fails ends the script with its answer.
  intro session holds
  cases found : check with
  | ok value => exact passed value found session holds
  | error failure => exact refused failure found session holds

/-- Past a check that rolls back, too. -/
theorem Meets.orRollback {check : Except φ α} {response : φ → ρ}
    (within : ∀ session, before session → session.committed = committed)
    (refused : ∀ failure, check = .error failure →
      leaves (.answered (response failure)) ⟨committed, .idle⟩)
    (passed : ∀ value, check = .ok value → Meets before (second value) after leaves) :
    Meets before (Script.orRollback check response >>= second) after leaves := by
  intro session holds
  cases found : check with
  | ok value => exact passed value found session holds
  | error failure =>
    -- What is left is what was committed, with nothing open.
    have left := refused failure found
    rw [← within session holds] at left
    exact left

/-- After a BEGIN a transaction is open, in which everything reads as it was committed. -/
theorem Meets.begins {second : Unit → Script σ ρ β}
    (thrown : fails = true → leaves .thrown ⟨committed, .idle⟩)
    (begun : fails = false → Meets (Open committed committed) (second ()) after leaves) :
    Meets (Idle committed) (Script.begins fails >>= second) after leaves := by
  -- A BEGIN that fails leaves the connection idle, as it was handed out.
  rintro session rfl
  cases fails with
  | true => exact thrown rfl
  | false => exact begun rfl _ ⟨id, rfl, rfl⟩

/-- A statement finds what the transaction has written so far, and adds to it. -/
theorem Meets.statement {write : σ → σ} {second : σ → Script σ ρ β}
    (thrown : fails = true → leaves .thrown ⟨committed, .aborted⟩)
    (done : fails = false → Meets (Open committed (write working)) (second working) after leaves) :
    Meets (Open committed working) (Script.statement fails write >>= second) after leaves := by
  -- A statement that fails aborts the transaction it stands in.
  rintro session ⟨pending, rfl, rfl⟩
  cases fails with
  | true => exact thrown rfl
  | false => exact done rfl _ ⟨fun state => write (pending state), rfl, rfl⟩

/-- A SELECT adds nothing. -/
theorem Meets.read {second : σ → Script σ ρ β}
    (thrown : fails = true → leaves .thrown ⟨committed, .aborted⟩)
    (done : fails = false → Meets (Open committed working) (second working) after leaves) :
    Meets (Open committed working) (Script.read fails >>= second) after leaves :=
  Meets.statement thrown done

/-- In a transaction that has failed no statement runs. -/
theorem Meets.aborted {write : σ → σ} {second : σ → Script σ ρ β} (thrown : leaves .thrown ⟨committed, .aborted⟩) :
    Meets (fun session => session = ⟨committed, .aborted⟩) (Script.statement fails write >>= second) after leaves := by
  -- The statement throws, as the session is aborted.
  rintro session rfl
  exact thrown

/-- Where an earlier statement may have failed, both cases are to be gone through. -/
theorem Meets.held {aborts : Prop} {is : σ → Prop} {script : Script σ ρ β}
    (aborted : aborts → Meets (fun session => session = ⟨committed, .aborted⟩) script after leaves)
    (opened : ∀ working, is working → Meets (Open committed working) script after leaves) :
    Meets (Held committed aborts is) script after leaves := by
  -- The session is in one of the two cases that are held.
  rintro session (⟨ended, failed⟩ | ⟨working, holds, opened'⟩)
  · exact aborted failed session ended
  · exact opened working holds session opened'

/-- A COMMIT leaves nothing open, whether it fails or not. -/
theorem Meets.commit {second : Unit → Script σ ρ β}
    (thrown : fails = true → leaves .thrown ⟨committed, .idle⟩)
    (done : fails = false → Meets (Idle working) (second ()) after leaves) :
    Meets (Open committed working) (Script.commit fails >>= second) after leaves := by
  -- A COMMIT that fails has ended the transaction all the same.
  rintro session ⟨pending, rfl, rfl⟩
  cases fails with
  | true => exact thrown rfl
  | false => exact done rfl _ rfl

/-- What is caught may have failed a statement, and the handler goes on without its value. -/
theorem Meets.caught {script : Script σ ρ α} {second : Option α → Script σ ρ β} {between : Session σ → Prop}
    (tried : Meets before script (fun _ => between) fun exit session => exit = .thrown ∧ between session)
    (done : ∀ value, Meets between (second value) after leaves) :
    Meets before (Script.caught script >>= second) after leaves := by
  intro session holds
  have ended := tried session holds
  simp only [Bind.bind, Script.caught]
  revert ended
  cases script session with
  | mk result later =>
    cases result with
    | ok value => exact done (some value) later
    | error exit =>
      -- Only an exception ends what is tried early, and the handler goes on behind it.
      rintro ⟨rfl, is⟩
      exact done none later is

/-- How a handler answers: at the end of its body, before it, or for an exception. -/
theorem Meets.served {body : Script σ ρ ρ} {after : ρ → Session σ → Prop} {failed : ρ}
    (meets : Meets (Idle committed) body after leaves) {holds : ρ → Session σ → Prop}
    (ended : ∀ response session, after response session → holds response session)
    (answered : ∀ response session, leaves (.answered response) session → holds response session)
    (thrown : ∀ session, leaves .thrown session → holds failed { session with connection := .idle }) :
    holds (Script.served failed body ⟨committed, .idle⟩).1
      (Script.served failed body ⟨committed, .idle⟩).2 := by
  have ends := meets _ rfl
  unfold Script.served
  revert ends
  cases body ⟨committed, .idle⟩ with
  | mk result later =>
    cases result with
    | ok response => exact ended response later
    | error exit =>
      cases exit with
      | answered response => exact answered response later
      -- The catch block rolls back, and answers in the body's place.
      | thrown => exact thrown later

end Rules

/-- A transaction that is open has committed nothing. -/
theorem Open.untouched {committed working : σ} {session : Session σ}
    (opened : Open committed working session) : session.committed = committed := by
  -- What has been written is pending.
  obtain ⟨pending, rfl, -⟩ := opened
  rfl

end Script

end Freight
