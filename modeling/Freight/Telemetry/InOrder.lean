import Freight.Telemetry.Instances

/-! What Redis keeps of the telemetry when instances die, and in which order several of them apply it. -/

namespace Freight.Telemetry

open Dispatch (Point)

/-- What one event does to the items, seen from the list, the memories and the log, and when it is orderly. -/
inductive Change (metres : Point → Point → ℚ) (cluster : Cluster) (event : ClusterEvent) : Cluster → Prop where
  /-- At most, an instance has begun or ended a drain with nothing in memory. -/
  | idle {drains : Nat → Option Drain} (held : { cluster with drains := drains }.held = cluster.held)
      (orderly : cluster.Orderly event) : Change metres cluster event { cluster with drains := drains }
  | pushed (fix : QueuedFix) (serial : fix.serial = cluster.pushed.length) (orderly : cluster.Orderly event) :
      Change metres cluster event
        { cluster with queue := cluster.queue ++ [fix], pushed := cluster.pushed ++ [fix] }
  | popped (server : Nat) (fix : QueuedFix) (rest : List QueuedFix) (first : cluster.queue = fix :: rest)
      {drains : Nat → Option Drain}
      (held : { cluster with drains := drains }.held =
        Function.update cluster.held server (cluster.held server ++ [fix]))
      (orderly : cluster.Orderly event) :
      Change metres cluster event { cluster with queue := rest, drains := drains }
  /-- An instance loses what it has in memory. -/
  | dropped (server : Nat) {drains : Nat → Option Drain}
      (held : { cluster with drains := drains }.held = Function.update cluster.held server [])
      (orderly : cluster.Orderly event ↔ cluster.held server = []) :
      Change metres cluster event { cluster with drains := drains }
  /-- A statement is run, and its item is either still in memory or has been processed. -/
  | ran (server : Nat) (fix : QueuedFix) (call : ItemCall) (rest : List QueuedFix) (fails : Bool) (answers : Answers)
      (before : cluster.held server = fix :: rest) {drains : Nat → Option Drain} {processed : List QueuedFix}
      (held : ({ cluster with drains := drains }.held = cluster.held ∧ processed = cluster.processed) ∨
        ({ cluster with drains := drains }.held = Function.update cluster.held server rest ∧
          processed = cluster.processed ++ [fix]))
      (orderly : cluster.Orderly event ↔ ∀ ran ∈ cluster.log, ran.server ≠ server →
        ran.fix.driverName = fix.driverName → ran.fix.serial ≤ fix.serial) :
      Change metres cluster event { cluster with
        drains := drains, processed := processed
        tracks := Function.update cluster.tracks fix.driverName
          (if fails then cluster.tracks fix.driverName
            else (call.next metres fix answers (cluster.tracks fix.driverName)).1)
        log := cluster.log ++ [{ server := server, fix := fix, call := call, fails := fails }] }

section
variable {metres : Point → Point → ℚ} {cluster : Cluster}

/-- What an instance holds is what its drain holds, and the others hold what they held. -/
theorem held_update (server : Nat) (drain : Option Drain) :
    { cluster with drains := Function.update cluster.drains server drain }.held =
      Function.update cluster.held server ((drain.map Drain.held).getD []) := by
  -- For this instance it is the new drain's, for the others what they have.
  funext other
  by_cases same : other = server
  · subst same
    simp [Cluster.held]
  · simp [Cluster.held, same]

/-- An instance that holds what it held before changes nothing for anybody. -/
theorem held_same {server : Nat} {drain : Option Drain}
    (same : (drain.map Drain.held).getD [] = cluster.held server) :
    { cluster with drains := Function.update cluster.drains server drain }.held = cluster.held := by
  -- To update a function by its own value changes nothing.
  rw [held_update, same, Function.update_eq_self]

/-- A batch about to be processed is what is held of it. -/
@[simp] theorem processBatch_held (batch : List QueuedFix) : (processBatch batch).held = batch := by
  -- An empty batch ends the drain, and any other is held as it is.
  cases batch <;> rfl

/-- Every event is one of these changes. -/
theorem step_change (event : ClusterEvent) : Change metres cluster event (cluster.step metres event) := by
  have nothing : cluster.Orderly event → Change metres cluster event cluster := .idle rfl
  cases event with
  -- The push fails, or the item is behind all the others.
  | enqueue driverName item fails =>
    simp only [Cluster.step]
    split
    · exact nothing trivial
    · exact .pushed _ rfl trivial
  | flush server =>
    simp only [Cluster.step]
    split
    · exact nothing trivial
    · rename_i draining
      -- Nothing was draining, and a new drain has nothing in memory.
      refine .idle (held_same ?_) trivial
      rw [Cluster.held, Option.not_isSome_iff_eq_none.mp draining]
      rfl
  | crash server => exact .dropped server (held_update server none) Iff.rfl
  -- An instance that drains goes on from where it was.
  | resume server fails answers =>
    cases draining : cluster.drains server with
    | none =>
      simp only [Cluster.step, draining]
      exact nothing (by simp only [Cluster.Orderly, draining])
    | some drain =>
      have holds : cluster.held server = drain.held := by rw [Cluster.held, draining]; rfl
      simp only [Cluster.step, draining]
      cases drain with
      | measure =>
        have orderly : cluster.Orderly (.resume server fails answers) := by simp only [Cluster.Orderly, draining]
        simp only [Cluster.resumeDrain]
        split
        · exact .idle (held_same holds.symm) orderly
        · exact .idle (held_same holds.symm) orderly
      -- It pops one item more, or has its batch.
      | pop batch =>
        have orderly : cluster.Orderly (.resume server fails answers) ↔ (fails = true → batch = []) := by
          simp only [Cluster.Orderly, draining]
        simp only [Cluster.resumeDrain]
        split
        · rename_i lost
          refine .dropped server (held_update server none) (orderly.trans ?_)
          rw [holds, lost]
          exact ⟨fun none => none rfl, fun none _ => none⟩
        · rename_i works
          have fine : cluster.Orderly (.resume server fails answers) := orderly.mpr fun lost => absurd lost works
          split
          · refine .idle (held_same ?_) fine
            rw [Option.map_some, Option.getD_some, processBatch_held, holds]
            rfl
          · rename_i fix rest first
            refine .popped server fix rest first ((held_update server _).trans ?_) fine
            rw [holds]
            split
            · rfl
            · rw [Option.map_some, Option.getD_some, processBatch_held]
              rfl
      -- It processes the first item of those that it popped.
      | process fix call rest =>
        have orderly : cluster.Orderly (.resume server fails answers) ↔ ∀ ran ∈ cluster.log, ran.server ≠ server →
            ran.fix.driverName = fix.driverName → ran.fix.serial ≤ fix.serial := by
          simp only [Cluster.Orderly, draining]
        cases fails with
        | true =>
          refine .ran server fix call rest true answers holds (.inr ⟨(held_update server _).trans ?_, rfl⟩) orderly
          rw [Option.map_some, Option.getD_some, processBatch_held]
        | false =>
          simp only [Cluster.resumeDrain, Cluster.runStatement, Bool.false_eq_true, if_false]
          cases going : (call.next metres fix answers (cluster.tracks fix.driverName)).2 with
          | some next =>
            refine @Change.ran metres cluster _ server fix call rest false answers holds _ _
              (.inl ⟨held_same ?_, rfl⟩) orderly
            rw [holds]
            rfl
          | none =>
            refine @Change.ran metres cluster _ server fix call rest false answers holds _ _
              (.inr ⟨(held_update server _).trans ?_, rfl⟩) orderly
            rw [Option.map_some, Option.getD_some, processBatch_held]

/-- The list, the memories and what has been processed keep the items apart, each in the order of the pushes. -/
structure Memory (cluster : Cluster) : Prop where
  drawn : ∀ fix ∈ cluster.pushed, fix.serial < cluster.pushed.length
  listed : ∀ fix ∈ cluster.queue, fix ∈ cluster.pushed
  queued : cluster.queue.Pairwise fun first second => first.serial < second.serial
  /-- What is in a memory was pushed before whatever is still in the list. -/
  held : ∀ server, ∀ fix ∈ cluster.held server,
    fix ∈ cluster.pushed ∧ ∀ other ∈ cluster.queue, fix.serial < other.serial
  sorted : ∀ server, (cluster.held server).Pairwise fun first second => first.serial < second.serial
  apart : ∀ one two, one ≠ two → ∀ fix ∈ cluster.held one, ∀ other ∈ cluster.held two, fix.serial ≠ other.serial
  processed : ∀ fix ∈ cluster.processed, fix ∈ cluster.pushed ∧
    (∀ other ∈ cluster.queue, fix.serial < other.serial) ∧
    ∀ server, ∀ other ∈ cluster.held server, fix.serial ≠ other.serial
  /-- No statement of an instance was for an item behind those in its memory. -/
  ran : ∀ ran ∈ cluster.log, ran.fix ∈ cluster.pushed ∧
    (∀ other ∈ cluster.queue, ran.fix.serial < other.serial) ∧
    ∀ fix ∈ cluster.held ran.server, ran.fix.serial ≤ fix.serial

/-- An empty list, and no instance at work, keep everything apart. -/
theorem memory_empty : Memory {} := by
  -- There is no item to be in two places.
  constructor <;> simp [Cluster.held]

namespace Memory

variable {next : Cluster}

/-- Nothing comes together where a memory only loses items. -/
theorem shrinks (memory : Memory cluster) (pushed : next.pushed = cluster.pushed) (queue : next.queue = cluster.queue)
    (held : ∀ server, (next.held server).Sublist (cluster.held server))
    (processed : ∀ fix ∈ next.processed, fix ∈ cluster.processed ∨
      (fix ∈ cluster.pushed ∧ (∀ other ∈ cluster.queue, fix.serial < other.serial) ∧
        ∀ server, ∀ other ∈ next.held server, fix.serial ≠ other.serial))
    (log : ∀ ran ∈ next.log, ran ∈ cluster.log ∨
      (ran.fix ∈ cluster.pushed ∧ (∀ other ∈ cluster.queue, ran.fix.serial < other.serial) ∧
        ∀ fix ∈ next.held ran.server, ran.fix.serial ≤ fix.serial)) : Memory next := by
  refine ⟨?_, ?_, ?_, fun server fix there => ?_, fun server => ?_, fun one two other fix here fix' there => ?_,
    fun fix there => ?_, fun ran there => ?_⟩
  · rw [pushed]
    exact memory.drawn
  · rw [pushed, queue]
    exact memory.listed
  · rw [queue]
    exact memory.queued
  · rw [pushed, queue]
    exact memory.held server fix ((held server).subset there)
  · exact (memory.sorted server).sublist (held server)
  · exact memory.apart one two other fix ((held one).subset here) fix' ((held two).subset there)
  · rw [pushed, queue]
    -- What is processed now was popped from its queue, or was processed before.
    rcases processed fix there with old | new
    · obtain ⟨known, behind, apart⟩ := memory.processed fix old
      exact ⟨known, behind, fun server other held_ => apart server other ((held server).subset held_)⟩
    · exact new
  · rw [pushed, queue]
    rcases log ran there with old | new
    · obtain ⟨known, behind, own⟩ := memory.ran ran old
      exact ⟨known, behind, fun fix held_ => own fix ((held ran.server).subset held_)⟩
    · exact new

/-- A new item is behind everything. -/
theorem pushed (memory : Memory cluster) (fix : QueuedFix) (serial : fix.serial = cluster.pushed.length) :
    Memory { cluster with queue := cluster.queue ++ [fix], pushed := cluster.pushed ++ [fix] } := by
  -- Its number is the next one, above all that were given out.
  have before : ∀ other ∈ cluster.pushed, other.serial < fix.serial := fun other there =>
    serial ▸ memory.drawn other there
  have known : ∀ other ∈ cluster.pushed, other ∈ cluster.pushed ++ [fix] := fun other there =>
    List.mem_append_left _ there
  have behind : ∀ other ∈ cluster.pushed, (∀ queued ∈ cluster.queue, other.serial < queued.serial) →
      ∀ queued ∈ cluster.queue ++ [fix], other.serial < queued.serial := by
    intro other there ahead queued listed
    rcases List.mem_append.mp listed with old | new
    · exact ahead queued old
    · rw [List.mem_singleton.mp new]
      exact before other there
  refine ⟨fun other there => ?_, fun other there => ?_, ?_, fun server other there => ?_, memory.sorted,
    memory.apart, fun other there => ?_, fun ran there => ?_⟩
  · rw [List.length_append, List.length_singleton]
    rcases List.mem_append.mp there with old | new
    · exact (memory.drawn other old).trans (Nat.lt_succ_self _)
    · rw [List.mem_singleton.mp new, serial]
      exact Nat.lt_succ_self _
  · rcases List.mem_append.mp there with old | new
    · exact known other (memory.listed other old)
    · exact List.mem_append_right _ new
  · refine List.pairwise_append.mpr ⟨memory.queued, List.pairwise_singleton _ _, fun other there last new => ?_⟩
    rw [List.mem_singleton.mp new]
    exact before other (memory.listed other there)
  · obtain ⟨own, ahead⟩ := memory.held server other there
    exact ⟨known other own, behind other own ahead⟩
  · obtain ⟨own, ahead, apart⟩ := memory.processed other there
    exact ⟨known other own, behind other own ahead, apart⟩
  · obtain ⟨own, ahead, later⟩ := memory.ran ran there
    exact ⟨known ran.fix own, behind ran.fix own ahead, later⟩

/-- The first item of the list comes to lie behind those of whoever pops it. -/
theorem popped (memory : Memory cluster) {server : Nat} {fix : QueuedFix} {rest : List QueuedFix}
    (first : cluster.queue = fix :: rest) (pushed : next.pushed = cluster.pushed) (queue : next.queue = rest)
    (held : next.held = Function.update cluster.held server (cluster.held server ++ [fix]))
    (processed : next.processed = cluster.processed) (log : next.log = cluster.log) : Memory next := by
  have listed : fix ∈ cluster.queue := first ▸ List.mem_cons_self
  have fewer : ∀ other ∈ rest, other ∈ cluster.queue := fun other there => first ▸ List.mem_cons_of_mem _ there
  have ahead : ∀ other ∈ rest, fix.serial < other.serial := by
    have queued := memory.queued
    rw [first] at queued
    exact (List.pairwise_cons.mp queued).1
  -- What an instance holds afterwards it held before, or is the item.
  have mine : ∀ one, ∀ other ∈ next.held one, other ∈ cluster.held one ∨ (one = server ∧ other = fix) := by
    intro one other there
    rw [held] at there
    by_cases same : one = server
    · subst same
      rw [Function.update_self] at there
      rcases List.mem_append.mp there with old | new
      · exact .inl old
      · exact .inr ⟨rfl, List.mem_singleton.mp new⟩
    · rw [Function.update_of_ne same] at there
      exact .inl there
  refine ⟨?_, ?_, ?_, fun one other there => ?_, fun one => ?_, fun one two apart other here third there => ?_,
    fun other there => ?_, fun ran there => ?_⟩
  · rw [pushed]
    exact memory.drawn
  · rw [pushed, queue]
    exact fun other there => memory.listed other (fewer other there)
  · rw [queue]
    have queued := memory.queued
    rw [first] at queued
    exact (List.pairwise_cons.mp queued).2
  · rw [pushed, queue]
    -- Before, it lay ahead of all that is still queued.
    rcases mine one other there with old | ⟨-, rfl⟩
    · obtain ⟨known, before⟩ := memory.held one other old
      exact ⟨known, fun queued listed => before queued (fewer queued listed)⟩
    · exact ⟨memory.listed other listed, ahead⟩
  · rw [held]
    by_cases same : one = server
    · subst same
      rw [Function.update_self]
      refine List.pairwise_append.mpr ⟨memory.sorted one, List.pairwise_singleton _ _, fun other there last new => ?_⟩
      rw [List.mem_singleton.mp new]
      exact (memory.held one other there).2 fix listed
    · rw [Function.update_of_ne same]
      exact memory.sorted one
  · rcases mine one other here with old | ⟨rfl, rfl⟩ <;> rcases mine two third there with old' | ⟨rfl, rfl⟩
    · exact memory.apart one two apart other old third old'
    · exact ((memory.held one other old).2 third listed).ne
    · exact ((memory.held two third old').2 other listed).ne'
    · exact absurd rfl apart
  · rw [processed] at there
    rw [pushed, queue]
    obtain ⟨known, before, elsewhere⟩ := memory.processed other there
    refine ⟨known, fun queued listed => before queued (fewer queued listed), fun one third here => ?_⟩
    rcases mine one third here with old | ⟨-, rfl⟩
    · exact elsewhere one third old
    · exact (before third listed).ne
  · rw [log] at there
    rw [pushed, queue]
    obtain ⟨known, before, later⟩ := memory.ran ran there
    refine ⟨known, fun queued listed => before queued (fewer queued listed), fun other here => ?_⟩
    rcases mine ran.server other here with old | ⟨-, rfl⟩
    · exact later other old
    · exact (before other listed).le

/-- Every event keeps the items apart. -/
theorem step (memory : Memory cluster) (event : ClusterEvent) : Memory (cluster.step metres event) := by
  have change := @step_change metres cluster event
  generalize cluster.step metres event = next at change ⊢
  cases change with
  | idle held =>
    exact memory.shrinks rfl rfl (fun server => by rw [held]) (fun _ there => .inl there) fun _ there => .inl there
  | pushed fix serial => exact memory.pushed fix serial
  | popped server fix rest first held => exact memory.popped first rfl rfl held rfl rfl
  -- A dead instance holds nothing.
  | dropped server held =>
    refine memory.shrinks rfl rfl (fun one => ?_) (fun _ there => .inl there) fun _ there => .inl there
    rw [held]
    by_cases same : one = server
    · subst same
      rw [Function.update_self]
      exact List.nil_sublist _
    · rw [Function.update_of_ne same]
  | @ran server fix call rest fails answers before drains processed held =>
    have there : fix ∈ cluster.held server := before ▸ List.mem_cons_self
    obtain ⟨known, ahead⟩ := memory.held server fix there
    have sorted := memory.sorted server
    rw [before] at sorted
    -- The item that runs is the first that its instance holds.
    have later := (List.pairwise_cons.mp sorted).1
    -- What is in a memory afterwards was in it before, and none of an instance's own items is in front of its last.
    have fewer : ∀ one, ({ cluster with drains := drains }.held one).Sublist (cluster.held one) := by
      intro one
      rcases held with ⟨same, -⟩ | ⟨less, -⟩
      · rw [same]
      · rw [less]
        by_cases same : one = server
        · subst same
          rw [Function.update_self, before]
          exact List.sublist_cons_self _ _
        · rw [Function.update_of_ne same]
    refine memory.shrinks rfl rfl fewer (fun other listed => ?_) fun ran listed => ?_
    · rcases held with ⟨-, same⟩ | ⟨less, more⟩
      · exact .inl (same ▸ listed)
      · rw [more] at listed
        rcases List.mem_append.mp listed with old | new
        · exact .inl old
        · rw [List.mem_singleton.mp new]
          refine .inr ⟨known, ahead, fun one third here => ?_⟩
          have kept : third ∈ Function.update cluster.held server rest one := less ▸ here
          by_cases same : one = server
          · subst same
            rw [Function.update_self] at kept
            exact (later third kept).ne
          · rw [Function.update_of_ne same] at kept
            exact memory.apart server one (Ne.symm same) fix there third kept
    · rcases List.mem_append.mp listed with old | new
      · exact .inl old
      · rw [List.mem_singleton.mp new]
        refine .inr ⟨known, ahead, fun other here => ?_⟩
        have old := (fewer server).subset here
        rw [before] at old
        rcases List.mem_cons.mp old with rfl | behind
        · exact Nat.le_refl _
        · exact (later other behind).le

end Memory

/-- A column changes only by the statements that are said to write it. -/
def Column.Faithful {β : Type} (column : Column β) : Prop :=
  ∀ metres fix answers track call, column.current (ItemCall.next metres fix answers track call).1 =
    (column.writes fix call).getD (column.current track)

/-- The position in the table does. -/
theorem positionColumn_faithful : positionColumn.Faithful := by
  -- Statement by statement.
  intro metres fix answers track call
  cases call <;> rfl

/-- So does the breach in the hash. -/
theorem breachColumn_faithful : breachColumn.Faithful := by
  -- Statement by statement.
  intro metres fix answers track call
  cases call <;> rfl

/-- So does the live entry. -/
theorem liveColumn_faithful : liveColumn.Faithful := by
  -- Statement by statement.
  intro metres fix answers track call
  cases call <;> rfl

/-- What is kept of each driver is what the last of the statements that wrote it has written. -/
def Follows {β : Type} (column : Column β) (log : List Ran) (tracks : String → Tracking) : Prop :=
  ∀ driverName,
    (column.current (tracks driverName) = column.initial ∧
      ∀ ran ∈ log, ran.fix.driverName = driverName → ran.wrote column = none) ∨
    ∃ before ran after, log = before ++ ran :: after ∧ ran.fix.driverName = driverName ∧
      ran.wrote column = some (column.current (tracks driverName)) ∧
      ∀ other ∈ after, other.fix.driverName = driverName → other.wrote column = none

/-- One statement more, whatever it writes and whoever it is for. -/
theorem Follows.append {β : Type} {column : Column β} {log : List Ran} {tracks later : String → Tracking} {ran : Ran}
    (follows : Follows column log tracks)
    (others : ∀ driverName, driverName ≠ ran.fix.driverName → later driverName = tracks driverName)
    (own : column.current (later ran.fix.driverName) =
      (ran.wrote column).getD (column.current (tracks ran.fix.driverName))) :
    Follows column (log ++ [ran]) later := by
  intro driverName
  by_cases written : driverName = ran.fix.driverName ∧ (ran.wrote column).isSome = true
  · -- The statement is now the last that wrote the column.
    obtain ⟨rfl, wrote⟩ := written
    obtain ⟨value, wrote⟩ := Option.isSome_iff_exists.mp wrote
    refine .inr ⟨log, ran, [], rfl, rfl, ?_, fun _ there => by cases there⟩
    rw [own, wrote, Option.getD_some]
  · -- The statement wrote nothing here, so the last writer is who it was.
    have unwritten : ran.fix.driverName = driverName → ran.wrote column = none := fun same =>
      Option.not_isSome_iff_eq_none.mp fun wrote => written ⟨same.symm, wrote⟩
    have same : column.current (later driverName) = column.current (tracks driverName) := by
      by_cases its : driverName = ran.fix.driverName
      · rw [its, own, unwritten its.symm, Option.getD_none]
      · rw [others driverName its]
    rw [same]
    rcases follows driverName with ⟨initial, none⟩ | ⟨before, last, after, split, own, wrote, since⟩
    · refine .inl ⟨initial, fun one there => ?_⟩
      rcases List.mem_append.mp there with old | new
      · exact none one old
      · rw [List.mem_singleton.mp new]
        exact unwritten
    · refine .inr ⟨before, last, after ++ [ran], by rw [split]; simp, own, wrote, fun one there => ?_⟩
      rcases List.mem_append.mp there with old | new
      · exact since one old
      · rw [List.mem_singleton.mp new]
        exact unwritten

/-- Every event leaves what is kept with the last statement that wrote it. -/
theorem Follows.step {β : Type} {column : Column β} (faithful : column.Faithful)
    (follows : Follows column cluster.log cluster.tracks) (event : ClusterEvent) :
    Follows column (cluster.step metres event).log (cluster.step metres event).tracks := by
  have change := @step_change metres cluster event
  generalize cluster.step metres event = next at change ⊢
  cases change with
  | idle | pushed | popped | dropped => exact follows
  | ran server fix call rest fails answers =>
    refine follows.append (fun driverName other => Function.update_of_ne other _ _) ?_
    show column.current (Function.update cluster.tracks fix.driverName _ fix.driverName) = _
    rw [Function.update_self]
    -- A statement that fails leaves the column as it was.
    cases fails with
    | true => rfl
    | false => exact faithful metres fix answers (cluster.tracks fix.driverName) call

/-- In order, the last that wrote is the newest that did. -/
theorem Follows.endsOnNewest {β : Type} {column : Column β} (follows : Follows column cluster.log cluster.tracks)
    (inOrder : cluster.InOrder) : cluster.EndsOnNewest column := by
  -- What came before is older by the order of the log, and what came since wrote nothing here.
  intro driverName
  rcases follows driverName with none | ⟨before, ran, after, split, own, wrote, since⟩
  · exact .inl none
  · refine .inr ⟨ran, split ▸ List.mem_append_right _ List.mem_cons_self, own, wrote, fun other there its written => ?_⟩
    rw [Cluster.InOrder, split] at inOrder
    rw [split] at there
    rcases List.mem_append.mp there with early | late
    · exact (List.pairwise_append.mp inOrder).2.2 other early ran List.mem_cons_self (its.trans own.symm)
    · rcases List.mem_cons.mp late with rfl | later
      · exact Nat.le_refl _
      · exact absurd (since other later its) written

/-- An orderly event loses no item. -/
theorem survives_step {event : ClusterEvent} (survives : cluster.Survives) (orderly : cluster.Orderly event) :
    (cluster.step metres event).Survives := by
  have change := @step_change metres cluster event
  generalize cluster.step metres event = next at change ⊢
  cases change with
  | idle held =>
    intro fix known
    rw [held]
    exact survives fix known
  | pushed fresh =>
    intro fix known
    rcases List.mem_append.mp known with old | new
    · exact (survives fix old).imp_left (List.mem_append_left _)
    · exact .inl (List.mem_append_right _ new)
  | @popped server first rest split drains held =>
    intro fix known
    have holds : ∀ one, fix ∈ cluster.held one ∨ (one = server ∧ fix = first) →
        fix ∈ { cluster with drains := drains }.held one := by
      intro one there
      rw [held, Function.update_apply]
      split
      · rename_i own
        subst own
        exact there.elim (List.mem_append_left _) fun new => List.mem_append_right _ (List.mem_singleton.mpr new.2)
      · rename_i other
        exact there.resolve_right fun new => other new.1
    -- The item that leaves the list is in a memory now.
    rcases survives fix known with listed | ⟨one, there⟩ | processed
    · rw [split] at listed
      rcases List.mem_cons.mp listed with rfl | later
      · exact .inr (.inl ⟨server, holds server (.inr ⟨rfl, rfl⟩)⟩)
      · exact .inl later
    · exact .inr (.inl ⟨one, holds one (.inl there)⟩)
    · exact .inr (.inr processed)
  | dropped server held iff =>
    -- There was nothing in the memory that is lost.
    intro fix known
    rw [held, ← iff.mp orderly, Function.update_eq_self]
    exact survives fix known
  | @ran server first call rest fails answers before drains processed held =>
    intro fix known
    rcases survives fix known with listed | ⟨one, there⟩ | done
    · exact .inl listed
    · rcases held with ⟨same, -⟩ | ⟨less, more⟩
      · refine .inr (.inl ⟨one, ?_⟩)
        show fix ∈ { cluster with drains := drains }.held one
        rw [same]
        exact there
      · -- Whoever held the item still does, unless it has just been processed.
        by_cases here : one = server ∧ fix = first
        · exact .inr (.inr (by rw [more, here.2]; exact List.mem_append_right _ (List.mem_singleton.mpr rfl)))
        · refine .inr (.inl ⟨one, ?_⟩)
          show fix ∈ { cluster with drains := drains }.held one
          rw [less, Function.update_apply]
          split
          · rename_i own
            subst own
            rw [before] at there
            exact (List.mem_cons.mp there).resolve_left fun same => here ⟨rfl, same⟩
          · exact there
    · refine .inr (.inr ?_)
      rcases held with ⟨-, same⟩ | ⟨-, more⟩
      · exact same ▸ done
      · exact more ▸ List.mem_append_left _ done

/-- An event that loses none of the items an instance had in memory was orderly. -/
theorem orderly_of_step {event : ClusterEvent} (memory : Memory cluster)
    (survives : (cluster.step metres event).Survives) (inOrder : (cluster.step metres event).InOrder) :
    cluster.Orderly event := by
  have change := @step_change metres cluster event
  generalize cluster.step metres event = next at change survives inOrder
  cases change with
  | idle held orderly => exact orderly
  | pushed fresh serial orderly => exact orderly
  | popped server first rest split held orderly => exact orderly
  | @dropped server drains held iff =>
    refine iff.mpr (List.eq_nil_iff_forall_not_mem.mpr fun fix there => ?_)
    obtain ⟨known, ahead⟩ := memory.held server fix there
    -- The item is nowhere else: not in the list, not in another memory, not among the processed ones.
    rcases survives fix known with listed | ⟨one, here⟩ | processed
    · exact lt_irrefl _ (ahead fix listed)
    · rw [held, Function.update_apply] at here
      split at here
      · cases here
      · rename_i other
        exact memory.apart one server other fix here fix there rfl
    · exact (memory.processed fix processed).2.2 server fix there rfl
  | ran server fix call rest fails answers before held iff =>
    refine iff.mpr fun earlier listed _ its => ?_
    exact (List.pairwise_append.mp inOrder).2.2 earlier listed _ (List.mem_singleton.mpr rfl) its

/-- Within an instance the items are in order, so an orderly statement comes after the older ones. -/
theorem inOrder_step {event : ClusterEvent} (memory : Memory cluster) (inOrder : cluster.InOrder)
    (orderly : cluster.Orderly event) : (cluster.step metres event).InOrder := by
  -- Only the statement that has just been run is new in the log.
  have change := @step_change metres cluster event
  generalize cluster.step metres event = next at change ⊢
  cases change with
  | idle | pushed | popped | dropped => exact inOrder
  | ran server fix call rest fails answers before held iff =>
    refine List.pairwise_append.mpr ⟨inOrder, List.pairwise_singleton _ _, fun earlier listed last new its => ?_⟩
    rw [List.mem_singleton.mp new] at its ⊢
    by_cases own : earlier.server = server
    · exact (memory.ran earlier listed).2.2 fix (own ▸ before ▸ List.mem_cons_self)
    · exact iff.mp orderly earlier listed own its

end

/-- Nothing has been lost, and everything that was applied was applied in order. -/
structure Intact (cluster : Cluster) : Prop where
  memory : Memory cluster
  survives : cluster.Survives
  inOrder : cluster.InOrder
  position : Follows positionColumn cluster.log cluster.tracks
  breach : Follows breachColumn cluster.log cluster.tracks
  live : Follows liveColumn cluster.log cluster.tracks

/-- At the first start there is nothing yet to be lost. -/
theorem intact_empty : Intact {} where
  -- Nothing is queued, held or recorded.
  memory := memory_empty
  survives := fun _ there => by cases there
  inOrder := List.Pairwise.nil
  position := fun _ => .inl ⟨rfl, fun _ there => by cases there⟩
  breach := fun _ => .inl ⟨rfl, fun _ there => by cases there⟩
  live := fun _ => .inl ⟨rfl, fun _ there => by cases there⟩

/-- What is intact is as it should be. -/
theorem Intact.sound {cluster : Cluster} (intact : Intact cluster) : cluster.Sound where
  -- Each column has its field.
  survives := intact.survives
  inOrder := intact.inOrder
  position := intact.position.endsOnNewest intact.inOrder
  breach := intact.breach.endsOnNewest intact.inOrder
  live := intact.live.endsOnNewest intact.inOrder

/--
Telemetry survives and is applied in order exactly when no instance dies, or loses Redis, with items in its memory,
and no instance runs a statement of an item after another has run one of a newer item of the same driver.
-/
theorem telemetry_sound_iff (metres : Point → Point → ℚ) (events : List ClusterEvent) :
    Throughout (Cluster.step metres) Cluster.Sound {} events ↔
      Along (Cluster.step metres) Cluster.Orderly {} events := by
  -- One event decides for one event, from nothing queued on.
  refine throughout_iff_of_invariant (fun cluster => Intact.sound)
    (fun cluster event intact sound => orderly_of_step intact.memory sound.survives sound.inOrder)
    (fun cluster event intact orderly => ?_) intact_empty
  exact ⟨intact.memory.step event, survives_step intact.survives orderly,
    inOrder_step intact.memory intact.inOrder orderly, intact.position.step positionColumn_faithful event,
    intact.breach.step breachColumn_faithful event, intact.live.step liveColumn_faithful event⟩

/-- A fix from a driver in the middle of the city. -/
def someFix : TelemetryItem where
  position := { lat := -19 / 10, lng := 301 / 10 }
  timestamp := 1000
  currentVelocityKmh := some 20

/-- An instance goes on, and no query finds anything. -/
def goesOn (server : Nat) : ClusterEvent :=
  .resume server false { activeZone := none, activeOrder := none, vehicleType := none, now := 0 }

/-- Two instances pop one fix each of a driver's two, and the second of them is the faster. -/
example : ¬ (run (Cluster.step fun _ _ => 0) {}
    [.enqueue "+250788000001" someFix false, .enqueue "+250788000001" someFix false, .flush 0, .flush 1,
      goesOn 0, goesOn 1, goesOn 0, goesOn 1, goesOn 0, goesOn 1, goesOn 1, goesOn 0]).InOrder := by
  unfold Cluster.InOrder
  decide

/-- A fix is pushed and popped, and the instance is restarted before it comes to it. -/
def restartedMidBatch : List ClusterEvent :=
  [.enqueue "+250788000001" someFix false, .flush 0, goesOn 0, goesOn 0, .crash 0]

/-- The fix is not in Redis any more, and nobody will ever process it. -/
theorem restartedMidBatch_loses :
    ¬ ∀ (metres : Point → Point → ℚ) (events : List ClusterEvent),
      Throughout (Cluster.step metres) Cluster.Sound {} events := by
  intro always
  have sound := (always (fun _ _ => 0) restartedMidBatch).last
  have memory : Memory (run (Cluster.step fun _ _ => 0) {} (restartedMidBatch.take 4)) :=
    (@throughout_of_step _ _ (Cluster.step fun _ _ => 0) Memory (fun _ event kept => kept.step event) {}
      memory_empty _).last
  -- The instance dies with the fix in its memory.
  have held : (run (Cluster.step fun _ _ => 0) {} (restartedMidBatch.take 4)).held 0 ≠ [] := by decide
  have orderly : Cluster.Orderly _ (.crash 0) :=
    @orderly_of_step (fun _ _ => 0) _ (.crash 0) memory sound.survives sound.inOrder
  exact held orderly

end Freight.Telemetry
