import Mathlib.Data.List.Chain
import Freight.Telemetry.Watch

/-! What dispatch is told by the checks, and what their flags say, while no two checks of one kind overlap. -/

namespace Freight.Telemetry

/-- What may come after what, of what is done about one driver or order. -/
def WatchNote.Follows : WatchNote → WatchNote → Prop
  | .resolved, .flagged | .flagged, .raised | .flagged, .cleared | .raised, .cleared | .cleared, .resolved
  | .cleared, .flagged => True
  | _, _ => False

/-- What has been done about it so far. -/
def WatchBoard.history (board : WatchBoard) (key : WatchKey) : List WatchNote :=
  board.log.filterMap fun entry => if entry.1 = key then some entry.2 else none

/-- What was done last; before anything was, it is as if all were resolved. -/
def WatchBoard.last (board : WatchBoard) (key : WatchKey) : WatchNote := (board.history key).getLast?.getD .resolved

/-- What is noted of a move. -/
def FlagMove.note (move : FlagMove) : WatchNote := if move.sets then .flagged else .cleared

/-- After this it is flagged. -/
def WatchNote.on : WatchNote → Bool
  | .flagged | .raised => true
  | .cleared | .resolved => false

/-- What is done about it is done in turn: flagged, told, cleared, told again. -/
def InTurn (board : WatchBoard) (key : WatchKey) : Prop :=
  (WatchNote.resolved :: board.history key).IsChain WatchNote.Follows

/-- The condition on an event: a check begins when no other of its kind is under way. -/
def OneAtATime (pool : Pool WatchBoard WatchCall) : PoolEvent Watch WatchAnswer Empty → Prop
  | .call watch => ∀ call ∈ pool.calls, watch ∉ call.underway
  | _ => True

/-- Who is to be flagged when a check has made its writes, by what it has read. -/
def WatchRest.target : WatchRest → WatchKey → Prop
  | .stale rows, .driver name => ∃ age, (name, age) ∈ rows.rows ∧ staleTelemetryThresholdSeconds < age
  | .stuck ids flagged, .order id => id ∈ flagged ∨ id ∈ ids
  | .settled ids flagged statuses, .order id =>
    id ∈ ids ∧ id ∉ flagged ∨ id ∈ flagged ∧ statuses id = some .arrived
  | _, _ => False

/-- It is flagged once some moves have been made. -/
def Leads (flags : List WatchKey) (moves : List FlagMove) (key : WatchKey) : Prop :=
  (∃ move ∈ moves, move.key = key ∧ move.sets = true) ∨
    key ∈ flags ∧ ∀ move ∈ moves, move.key = key → move.sets = true

/-- The flags of the orders a check found flagged, each once. -/
def WatchRest.Fresh : WatchRest → Prop
  | .stale _ => True
  | .stuck _ flagged | .settled _ flagged _ => flagged.Nodup

/-- Moves that are due: one about each, of one check, and each changes what it is about. -/
structure Due (flags : List WatchKey) (watch : Watch) (moves : List FlagMove) : Prop where
  distinct : (moves.map FlagMove.key).Nodup
  own : ∀ move ∈ moves, move.key.watch = watch
  changes : ∀ move ∈ moves, move.key ∈ flags ↔ move.sets = false

/-- How far the board has come with a check. -/
def WatchCall.Sound (board : WatchBoard) : WatchCall → Prop
  | .moving moves rest => rest.Fresh ∧ Due board.flags rest.watch moves ∧
      ∀ key, key.watch = rest.watch → (Leads board.flags moves key ↔ rest.target key)
  -- The move is written, and those behind it still lead on.
  | .telling move moves rest => (rest.Fresh ∧ Due board.flags rest.watch moves ∧
      ∀ key, key.watch = rest.watch → (Leads board.flags moves key ↔ rest.target key)) ∧
      move.key.watch = rest.watch ∧ board.last move.key = move.note
  | .asking ids flagged => flagged.Nodup ∧
      ∀ key, key.watch = .stuck → (key ∈ board.flags ↔ (WatchRest.stuck ids flagged).target key)
  | .querying _ | .readingStale _ | .finished _ | .dropped => True
  | .readingStuck ids => ids.Nodup

/-- What every run keeps in which no two checks of one kind overlap. -/
structure Watching (board : WatchBoard) (calls : List WatchCall) : Prop where
  single : calls.Pairwise fun one other => ∀ watch ∈ one.underway, watch ∉ other.underway
  unique : board.flags.Nodup
  inTurn : ∀ key, InTurn board key
  last : ∀ key, key ∈ board.flags ↔ (board.last key).on = true
  sound : ∀ call ∈ calls, call.Sound board

section Boards

variable {board : WatchBoard} {key other : WatchKey} {note : WatchNote}

/-- A note is put behind the history of its own key. -/
theorem history_noted (board : WatchBoard) (flags : List WatchKey) (key other : WatchKey) (note : WatchNote) :
    ({ flags := flags, log := board.log ++ [(key, note)] } : WatchBoard).history other =
      board.history other ++ if key = other then [note] else [] := by
  -- The note is kept by the filter for its own key, and dropped for another.
  unfold WatchBoard.history
  rw [List.filterMap_append]
  by_cases own : key = other <;> simp [own]

/-- So it is the last of its own key's, and the others' stay. -/
theorem last_noted (board : WatchBoard) (flags : List WatchKey) (key other : WatchKey) (note : WatchNote) :
    ({ flags := flags, log := board.log ++ [(key, note)] } : WatchBoard).last other =
      if key = other then note else board.last other := by
  -- The last of a list with one more at its end is that one.
  unfold WatchBoard.last
  rw [history_noted]
  by_cases own : key = other <;> simp [own]

/-- What may follow what was done last is done in turn. -/
theorem InTurn.noted (inTurn : InTurn board other) (flags : List WatchKey)
    (follows : key = other → (board.last other).Follows note) :
    InTurn { flags := flags, log := board.log ++ [(key, note)] } other := by
  unfold InTurn at inTurn ⊢
  rw [history_noted]
  -- The chain is longer by one link, from what was last.
  by_cases own : key = other
  · rw [if_pos own, ← List.cons_append]
    refine inTurn.append (List.isChain_singleton _) fun before listed after first => ?_
    have following := follows own
    cases Option.mem_some_iff.mp first
    have same : before = board.last other := by
      unfold WatchBoard.last
      rw [List.getLast?_cons] at listed
      cases Option.mem_some_iff.mp listed
      rfl
    rw [same]
    exact following
  · rw [if_neg own, List.append_nil]
    exact inTurn

/-- Who is flagged once a move is made. -/
theorem mem_written (board : WatchBoard) (move : FlagMove) (key : WatchKey) :
    key ∈ (move.write.execute board).flags ↔ if key = move.key then move.sets = true else key ∈ board.flags := by
  -- A set adds the key if it is not there, and a deletion takes it out.
  unfold FlagMove.write
  cases sets : move.sets with
  | true =>
    show key ∈ (if move.key ∈ board.flags then board.flags else board.flags ++ [move.key]) ↔ _
    by_cases there : move.key ∈ board.flags
    · rw [if_pos there]
      by_cases own : key = move.key <;> simp [own, there]
    · rw [if_neg there, List.mem_append, List.mem_singleton]
      by_cases own : key = move.key <;> simp [own]
  | false =>
    show key ∈ board.flags.filter (· ≠ move.key) ↔ _
    rw [List.mem_filter]
    by_cases own : key = move.key <;> simp [own]

/-- Nobody is flagged twice. -/
theorem nodup_written {board : WatchBoard} (unique : board.flags.Nodup) (move : FlagMove) :
    (move.write.execute board).flags.Nodup := by
  -- What is added was not there, and a deletion only takes out.
  unfold FlagMove.write
  cases move.sets with
  | true =>
    show (if move.key ∈ board.flags then board.flags else board.flags ++ [move.key]).Nodup
    split
    · exact unique
    · rename_i fresh
      refine unique.append (List.nodup_singleton _) fun key there own => ?_
      exact fresh (List.mem_singleton.mp own ▸ there)
  | false => exact unique.filter _

/-- It is noted behind all else. -/
theorem written_log (board : WatchBoard) (move : FlagMove) :
    (move.write.execute board).log = board.log ++ [(move.key, move.note)] := by
  -- A set and a deletion are both noted.
  unfold FlagMove.write FlagMove.note
  cases move.sets <;> rfl

/-- So it is what was done last. -/
theorem last_written (board : WatchBoard) (move : FlagMove) (key : WatchKey) :
    (move.write.execute board).last key = if move.key = key then move.note else board.last key := by
  -- The log ends with the write, and the flags are as it left them.
  rw [← last_noted board (move.write.execute board).flags, ← written_log]

/-- A move that changes what it is about is made in turn. -/
theorem InTurn.written {move : FlagMove} (inTurn : ∀ key, InTurn board key)
    (last : ∀ key, key ∈ board.flags ↔ (board.last key).on = true)
    (changes : move.key ∈ board.flags ↔ move.sets = false) (key : WatchKey) :
    InTurn (move.write.execute board) key := by
  -- The flag says what was noted last, and the move goes against the flag.
  have follows : move.key = key → (board.last key).Follows move.note := by
    rintro rfl
    rw [last] at changes
    unfold FlagMove.note
    cases before : board.last move.key <;> cases sets : move.sets <;> simp_all [WatchNote.on, WatchNote.Follows]
  have noted := (inTurn key).noted (move.write.execute board).flags follows
  rw [← written_log] at noted
  exact noted

end Boards

section Moves

variable {flags later : List WatchKey} {watch : Watch} {move : FlagMove} {moves : List FlagMove} {key : WatchKey}

/-- The moves behind one that has been made are still due. -/
theorem Due.tail (due : Due flags watch (move :: moves))
    (written : ∀ key, key ∈ later ↔ if key = move.key then move.sets = true else key ∈ flags) :
    Due later watch moves := by
  -- The keys are distinct, so none of the others is touched.
  obtain ⟨apart, distinct⟩ := List.nodup_cons.mp due.distinct
  refine ⟨distinct, fun other member => due.own other (List.mem_cons_of_mem _ member), fun other member => ?_⟩
  have else_ : other.key ≠ move.key := fun same => apart (same ▸ List.mem_map_of_mem member)
  rw [written, if_neg else_]
  exact due.changes other (List.mem_cons_of_mem _ member)

/-- They lead where they led. -/
theorem leads_tail (due : Due flags watch (move :: moves))
    (written : ∀ key, key ∈ later ↔ if key = move.key then move.sets = true else key ∈ flags) :
    Leads later moves key ↔ Leads flags (move :: moves) key := by
  obtain ⟨apart, -⟩ := List.nodup_cons.mp due.distinct
  unfold Leads
  rw [written]
  -- The key is the one just written, and no other move is about it; or it is as it was.
  by_cases own : key = move.key
  · subst own
    have none : ∀ other ∈ moves, other.key ≠ move.key := fun other member same =>
      apart (same ▸ List.mem_map_of_mem member)
    rw [if_pos rfl]
    constructor
    · rintro (⟨other, member, same, -⟩ | ⟨sets, -⟩)
      · exact absurd same (none other member)
      · exact .inl ⟨move, List.mem_cons_self, rfl, sets⟩
    · rintro (⟨other, member, same, sets⟩ | ⟨-, all⟩)
      · rcases List.mem_cons.mp member with rfl | among
        · exact .inr ⟨sets, fun other member same => absurd same (none other member)⟩
        · exact absurd same (none other among)
      · exact .inr ⟨all move List.mem_cons_self rfl, fun other member same => absurd same (none other member)⟩
  -- About another key the rest of the moves say what they said.
  · rw [if_neg own]
    constructor
    · rintro (⟨other, member, found⟩ | ⟨there, all⟩)
      · exact .inl ⟨other, List.mem_cons_of_mem _ member, found⟩
      · refine .inr ⟨there, fun other member same => ?_⟩
        rcases List.mem_cons.mp member with rfl | among
        · exact absurd same.symm own
        · exact all other among same
    · rintro (⟨other, member, same, sets⟩ | ⟨there, all⟩)
      · rcases List.mem_cons.mp member with rfl | among
        · exact absurd same.symm own
        · exact .inl ⟨other, among, same, sets⟩
      · exact .inr ⟨there, fun other member same => all other (List.mem_cons_of_mem _ member) same⟩

/-- With no moves left it leads to what is flagged. -/
theorem leads_nil : Leads flags [] key ↔ key ∈ flags := by
  -- There is no move to set it or to take it out.
  unfold Leads
  simp

/-- Flags and moves of one check do not mind what is done to the others. -/
theorem Due.elsewhere (due : Due flags watch moves)
    (same : ∀ key, key.watch = watch → (key ∈ later ↔ key ∈ flags)) : Due later watch moves :=
  ⟨due.distinct, due.own, fun other member => (same _ (due.own other member)).trans (due.changes other member)⟩

/-- Nor does where they lead. -/
theorem leads_elsewhere (same : key ∈ later ↔ key ∈ flags) : Leads later moves key ↔ Leads flags moves key := by
  -- It reads of the flags whether the key is there.
  unfold Leads
  rw [same]

end Moves

section Plans

variable {board : WatchBoard}

/-- The names under the first hash. -/
theorem mem_flaggedStale {name : String} : name ∈ board.flaggedStale ↔ .driver name ∈ board.flags := by
  -- The filter keeps the drivers, under their names.
  unfold WatchBoard.flaggedStale
  rw [List.mem_filterMap]
  constructor
  · rintro ⟨key, member, same⟩
    cases key with
    | driver other => exact Option.some.inj same ▸ member
    | order id => cases same
  · exact fun member => ⟨_, member, rfl⟩

/-- The ids under the second. -/
theorem mem_flaggedStuck {id : Nat} : id ∈ board.flaggedStuck ↔ .order id ∈ board.flags := by
  -- The filter keeps the orders, under their ids.
  unfold WatchBoard.flaggedStuck
  rw [List.mem_filterMap]
  constructor
  · rintro ⟨key, member, same⟩
    cases key with
    | driver name => cases same
    | order other => exact Option.some.inj same ▸ member
  · exact fun member => ⟨_, member, rfl⟩

/-- Each is there once. -/
theorem nodup_flaggedStale (unique : board.flags.Nodup) : board.flaggedStale.Nodup := by
  -- Two keys with one name are one key.
  refine unique.filterMap fun one other name first second => ?_
  cases one <;> cases other <;> simp_all

/-- So is each order. -/
theorem nodup_flaggedStuck (unique : board.flags.Nodup) : board.flaggedStuck.Nodup := by
  -- Two keys with one id are one key.
  refine unique.filterMap fun one other id first second => ?_
  cases one <;> cases other <;> simp_all

/-- What is done about a driver with work. -/
theorem staleMove_eq_some {flagged : List String} {row : String × ℚ} {move : FlagMove} :
    staleMove flagged row = some move ↔ move.key = .driver row.1 ∧ move.told = true ∧
      ((staleTelemetryThresholdSeconds < row.2 ∧ row.1 ∉ flagged ∧ move.sets = true) ∨
        (¬staleTelemetryThresholdSeconds < row.2 ∧ row.1 ∈ flagged ∧ move.sets = false)) := by
  -- By the age of the fix and by whether the driver is flagged.
  obtain ⟨key, sets, told⟩ := move
  unfold staleMove
  by_cases stale : staleTelemetryThresholdSeconds < row.2 <;> by_cases already : row.1 ∈ flagged <;>
    simp [stale, already, eq_comm, and_comm]

/-- What the first check is to do, from what it has read. -/
theorem mem_staleMoves {rows : StaleRows} {flagged : List String} {move : FlagMove} :
    move ∈ staleMoves rows flagged ↔ (∃ row ∈ rows.rows, staleMove flagged row = some move) ∨
      ∃ name ∈ flagged, name ∉ rows.rows.map Prod.fst ∧ { key := .driver name, sets := false, told := false } = move := by
  -- The drivers with work, and those flagged who have none.
  unfold staleMoves
  rw [List.mem_append, List.mem_filterMap, List.mem_map]
  refine or_congr Iff.rfl (exists_congr fun name => ?_)
  rw [List.mem_filter, decide_eq_true_eq, and_assoc]

/-- It is due: once about each driver, and only where something has to change. -/
theorem staleMoves_due (unique : board.flags.Nodup) (rows : StaleRows) :
    Due board.flags .stale (staleMoves rows board.flaggedStale) := by
  refine ⟨?_, fun move member => ?_, fun move member => ?_⟩
  · unfold staleMoves
    rw [List.map_append, List.map_map]
    refine List.Nodup.append ?_ ?_ ?_
    · -- About those with work: no driver has two rows.
      rw [List.Nodup, List.pairwise_map, List.pairwise_filterMap]
      have apart : rows.rows.Pairwise fun one other => one.1 ≠ other.1 := List.pairwise_map.mp rows.unique
      refine apart.imp fun differ move moved other moves same => differ ?_
      have first := (staleMove_eq_some.mp moved).1
      have second := (staleMove_eq_some.mp moves).1
      rw [first, second] at same
      exact WatchKey.driver.inj same
    -- About those without work: none is flagged twice.
    · refine ((nodup_flaggedStale unique).filter _).map fun one other same => ?_
      exact WatchKey.driver.inj same
    -- And nobody has work and is without it.
    · intro key first second
      obtain ⟨move, moved, rfl⟩ := List.mem_map.mp first
      obtain ⟨row, listed, own⟩ := List.mem_filterMap.mp moved
      obtain ⟨name, without, same⟩ := List.mem_map.mp second
      rw [(staleMove_eq_some.mp own).1] at same
      have idle := of_decide_eq_true (List.mem_filter.mp without).2
      exact idle (WatchKey.driver.inj same ▸ List.mem_map_of_mem listed)
  · rcases mem_staleMoves.mp member with ⟨row, -, moved⟩ | ⟨name, -, -, rfl⟩
    · rw [(staleMove_eq_some.mp moved).1]
      rfl
    · rfl
  · rcases mem_staleMoves.mp member with ⟨row, -, moved⟩ | ⟨name, flagged, -, rfl⟩
    · obtain ⟨key, -, cases_⟩ := staleMove_eq_some.mp moved
      rw [key, ← mem_flaggedStale]
      rcases cases_ with ⟨-, fresh, sets⟩ | ⟨-, already, sets⟩
      · simp [fresh, sets]
      · simp [already, sets]
    · exact iff_of_true (mem_flaggedStale.mp flagged) rfl

/-- It leads to the drivers whose last fix is too old. -/
theorem staleMoves_leads (rows : StaleRows) (key : WatchKey) (own : key.watch = .stale) :
    Leads board.flags (staleMoves rows board.flaggedStale) key ↔ (WatchRest.stale rows).target key := by
  cases key with
  | order id => cases own
  | driver name =>
    show _ ↔ ∃ age, (name, age) ∈ rows.rows ∧ staleTelemetryThresholdSeconds < age
    -- A flag set is of an old fix; one that stays was not moved, so its fix is still old.
    constructor
    · rintro (⟨move, member, same, sets⟩ | ⟨there, all⟩)
      · rcases mem_staleMoves.mp member with ⟨row, listed, moved⟩ | ⟨other, -, -, rfl⟩
        · obtain ⟨key, -, cases_⟩ := staleMove_eq_some.mp moved
          obtain rfl : row.1 = name := WatchKey.driver.inj (key.symm.trans same)
          rcases cases_ with ⟨stale, -, -⟩ | ⟨-, -, clears⟩
          · exact ⟨row.2, listed, stale⟩
          · cases sets.symm.trans clears
        · cases sets
      · have flagged := mem_flaggedStale.mpr there
        by_cases works : name ∈ rows.rows.map Prod.fst
        · obtain ⟨row, listed, rfl⟩ := List.mem_map.mp works
          by_contra fresh
          have quiet : ¬staleTelemetryThresholdSeconds < row.2 := fun stale => fresh ⟨row.2, listed, stale⟩
          have moved : staleMove board.flaggedStale row = some ⟨.driver row.1, false, true⟩ :=
            staleMove_eq_some.mpr ⟨rfl, rfl, .inr ⟨quiet, flagged, rfl⟩⟩
          cases all _ (mem_staleMoves.mpr (.inl ⟨row, listed, moved⟩)) rfl
        · cases all _ (mem_staleMoves.mpr (.inr ⟨name, flagged, works, rfl⟩)) rfl
    -- An old fix is flagged already, or is about to be.
    · rintro ⟨age, listed, stale⟩
      by_cases there : .driver name ∈ board.flags
      · refine .inr ⟨there, fun move member same => ?_⟩
        rcases mem_staleMoves.mp member with ⟨row, among, moved⟩ | ⟨other, -, idle, rfl⟩
        · obtain ⟨key, -, cases_⟩ := staleMove_eq_some.mp moved
          obtain own : row.1 = name := WatchKey.driver.inj (key.symm.trans same)
          obtain rfl : row = (name, age) := rows.same_row among listed own
          rcases cases_ with ⟨-, -, sets⟩ | ⟨quiet, -, -⟩
          · exact sets
          · exact absurd stale quiet
        · exact absurd (WatchKey.driver.inj same ▸ List.mem_map_of_mem listed) idle
      · have fresh : name ∉ board.flaggedStale := fun flagged => there (mem_flaggedStale.mp flagged)
        have moved : staleMove board.flaggedStale (name, age) = some ⟨.driver name, true, true⟩ :=
          staleMove_eq_some.mpr ⟨rfl, rfl, .inl ⟨stale, fresh, rfl⟩⟩
        exact .inl ⟨_, mem_staleMoves.mpr (.inl ⟨_, listed, moved⟩), rfl, rfl⟩

/-- What the second check is to do about the orders it finds. -/
theorem stuckMoves_due {ids : List Nat} (distinct : ids.Nodup) :
    Due board.flags .stuck (stuckMoves ids board.flaggedStuck) := by
  -- Only orders that are not flagged yet are to be.
  refine ⟨?_, fun move member => ?_, fun move member => ?_⟩
  · unfold stuckMoves
    rw [List.map_map]
    exact (distinct.filter _).map fun one other same => WatchKey.order.inj same
  · obtain ⟨id, -, rfl⟩ := List.mem_map.mp member
    rfl
  · obtain ⟨id, fresh, rfl⟩ := List.mem_map.mp member
    refine iff_of_false (fun there => ?_) Bool.noConfusion
    exact of_decide_eq_true (List.mem_filter.mp fresh).2 (mem_flaggedStuck.mpr there)

/-- It leads to them, beside those that were flagged. -/
theorem stuckMoves_leads (ids : List Nat) (key : WatchKey) (own : key.watch = .stuck) :
    Leads board.flags (stuckMoves ids board.flaggedStuck) key ↔
      (WatchRest.stuck ids board.flaggedStuck).target key := by
  cases key with
  | driver name => cases own
  | order id =>
    show _ ↔ id ∈ board.flaggedStuck ∨ id ∈ ids
    -- A flag that is set is of an order found; one that stays was there.
    constructor
    · rintro (⟨move, member, same, -⟩ | ⟨there, -⟩)
      · obtain ⟨other, listed, rfl⟩ := List.mem_map.mp member
        exact .inr (WatchKey.order.inj same ▸ List.mem_of_mem_filter listed)
      · exact .inl (mem_flaggedStuck.mpr there)
    · intro found
      by_cases flagged : id ∈ board.flaggedStuck
      · refine .inr ⟨mem_flaggedStuck.mp flagged, fun move member _ => ?_⟩
        obtain ⟨other, -, rfl⟩ := List.mem_map.mp member
        rfl
      · have listed : id ∈ ids.filter fun id => id ∉ board.flaggedStuck :=
          List.mem_filter.mpr ⟨found.resolve_left flagged, decide_eq_true flagged⟩
        exact .inl ⟨_, List.mem_map_of_mem listed, rfl, rfl⟩

/-- And what it is to do about those that were flagged, once their statuses are known. -/
theorem settledMoves_due {flags : List WatchKey} {flagged : List Nat} (distinct : flagged.Nodup)
    (there : ∀ id ∈ flagged, .order id ∈ flags) (statuses : Nat → Option OrderStatus) :
    Due flags .stuck (settledMoves flagged statuses) := by
  -- Only orders that are flagged are settled.
  refine ⟨?_, fun move member => ?_, fun move member => ?_⟩
  · unfold settledMoves
    rw [List.map_map]
    exact (distinct.filter _).map fun one other same => WatchKey.order.inj same
  · obtain ⟨id, -, rfl⟩ := List.mem_map.mp member
    rfl
  · obtain ⟨id, listed, rfl⟩ := List.mem_map.mp member
    exact iff_of_true (there id (List.mem_of_mem_filter listed)) rfl

/-- It leads to those that are still where they were, and to those that have just been found. -/
theorem settledMoves_leads {flags : List WatchKey} {ids flagged : List Nat} (statuses : Nat → Option OrderStatus)
    (there : ∀ id, .order id ∈ flags ↔ id ∈ flagged ∨ id ∈ ids) (key : WatchKey) (own : key.watch = .stuck) :
    Leads flags (settledMoves flagged statuses) key ↔ (WatchRest.settled ids flagged statuses).target key := by
  cases key with
  | driver name => cases own
  | order id =>
    show _ ↔ id ∈ ids ∧ id ∉ flagged ∨ id ∈ flagged ∧ statuses id = some .arrived
    -- A flag that stays is of an order still arrived, or of one found this time.
    constructor
    · rintro (⟨move, member, -, sets⟩ | ⟨still, all⟩)
      · obtain ⟨other, -, rfl⟩ := List.mem_map.mp member
        cases sets
      · by_cases before : id ∈ flagged
        · refine .inr ⟨before, ?_⟩
          by_contra gone
          have listed : id ∈ flagged.filter fun id => statuses id ≠ some .arrived :=
            List.mem_filter.mpr ⟨before, decide_eq_true gone⟩
          cases all _ (List.mem_map_of_mem listed) rfl
        · exact .inl ⟨((there id).mp still).resolve_left before, before⟩
    · rintro (⟨found, fresh⟩ | ⟨before, arrived⟩)
      · refine .inr ⟨(there id).mpr (.inr found), fun move member same => ?_⟩
        obtain ⟨other, listed, rfl⟩ := List.mem_map.mp member
        exact absurd (WatchKey.order.inj same ▸ List.mem_of_mem_filter listed) fresh
      · refine .inr ⟨(there id).mpr (.inl before), fun move member same => ?_⟩
        obtain ⟨other, listed, rfl⟩ := List.mem_map.mp member
        obtain rfl : other = id := WatchKey.order.inj same
        exact absurd arrived (of_decide_eq_true (List.mem_filter.mp listed).2)

end Plans

section Steps

variable {board later : WatchBoard} {call : WatchCall} {others : List WatchCall} {answer : WatchAnswer}

/-- What is known of a check stays so, whatever the other check does. -/
theorem WatchCall.Sound.elsewhere {watch : Watch} (sound : call.Sound board) (apart : watch ∉ call.underway)
    (flags : ∀ key, key.watch ≠ watch → (key ∈ later.flags ↔ key ∈ board.flags))
    (last : ∀ key, key.watch ≠ watch → later.last key = board.last key) : call.Sound later := by
  -- The other check writes flags of its own kind.
  have other : ∀ rest : WatchRest, some rest.watch = call.underway → ∀ key : WatchKey, key.watch = rest.watch →
      key.watch ≠ watch := by
    intro rest own key same differ
    exact apart (own ▸ same ▸ differ ▸ rfl)
  have onward : ∀ moves (rest : WatchRest), some rest.watch = call.underway →
      (rest.Fresh ∧ Due board.flags rest.watch moves ∧
        ∀ key, key.watch = rest.watch → (Leads board.flags moves key ↔ rest.target key)) →
      rest.Fresh ∧ Due later.flags rest.watch moves ∧
        ∀ key, key.watch = rest.watch → (Leads later.flags moves key ↔ rest.target key) := by
    intro moves rest own before
    obtain ⟨fresh, due, leads⟩ := before
    exact ⟨fresh, due.elsewhere fun key same => flags key (other rest own key same),
      fun key same => (leads_elsewhere (flags key (other rest own key same))).trans (leads key same)⟩
  cases call with
  | moving moves rest => exact onward moves rest rfl sound
  | telling move moves rest =>
    exact ⟨onward moves rest rfl sound.1, sound.2.1, (last _ (other rest rfl _ sound.2.1)).trans sound.2.2⟩
  | asking ids flagged =>
    exact ⟨sound.1, fun key same => (flags key fun differ =>
      apart (congrArg some (same.symm.trans differ))).trans (sound.2 key same)⟩
  | readingStuck ids => exact sound
  | querying watch => trivial
  | readingStale rows => trivial
  | finished rest => trivial
  | dropped => trivial

/-- A check stays of its kind, and is over at some time. -/
theorem underway_next {board : WatchBoard} {answer : WatchAnswer} {watch : Watch}
    (under : watch ∈ (call.next board answer).2.underway) : watch ∈ call.underway := by
  -- What is left of a check is of the same kind.
  have after : ∀ rest : WatchRest, watch ∈ rest.next.underway → watch = rest.watch := by
    intro rest still
    cases rest with
    | stale rows => cases still
    | stuck ids flagged =>
      cases flagged with
      | nil => cases still
      | cons first rest => exact (Option.some.inj still).symm
    | settled ids flagged statuses => cases still
  cases call with
  | telling move moves rest => exact under
  | finished rest => exact under
  -- With no move left the check turns to what it does next.
  | moving moves rest =>
    cases moves with
    | nil => exact congrArg some (after rest under).symm
    | cons move moves =>
      simp only [WatchCall.next] at under
      split at under
      · cases under
      · by_cases told : move.told
        · rw [if_pos told] at under
          exact under
        · rw [if_neg told] at under
          exact under
  -- Each query is of one kind, and leads to a check of that kind.
  | querying kind =>
    cases kind <;> simp only [WatchCall.next] at under <;> split at under <;> first | exact under | cases under
  | readingStale rows => simp only [WatchCall.next] at under; split at under <;> first | exact under | cases under
  | readingStuck ids => simp only [WatchCall.next] at under; split at under <;> first | exact under | cases under
  | asking ids flagged => simp only [WatchCall.next] at under; split at under <;> first | exact under | cases under
  | dropped => simp only [WatchCall.next] at under; split at under <;> cases under

/-- A step that writes nothing. -/
theorem Watching.quiet {next : WatchCall} (watching : Watching board (call :: others))
    (under : ∀ watch ∈ next.underway, watch ∈ call.underway) (sound : next.Sound board) :
    Watching board (next :: others) := by
  -- The flags and the notes are as they were, and it is still alone of its kind.
  obtain ⟨apart, single⟩ := List.pairwise_cons.mp watching.single
  exact ⟨List.pairwise_cons.mpr ⟨fun other member watch mine => apart other member watch (under watch mine), single⟩,
    watching.unique, watching.inTurn, watching.last,
    List.forall_mem_cons.mpr ⟨sound, fun other member => watching.sound other (List.mem_cons_of_mem _ member)⟩⟩

/-- A write is made. -/
theorem Watching.writes {move : FlagMove} {moves : List FlagMove} {rest : WatchRest} {next : WatchCall}
    (watching : Watching board (.moving (move :: moves) rest :: others)) (under : next.underway = some rest.watch)
    (sound : next.Sound (move.write.execute board)) : Watching (move.write.execute board) (next :: others) := by
  obtain ⟨apart, single⟩ := List.pairwise_cons.mp watching.single
  obtain ⟨-, due, -⟩ := watching.sound _ List.mem_cons_self
  have changes := due.changes move List.mem_cons_self
  have own := due.own move List.mem_cons_self
  -- The other check is of the other kind, whose flags stay.
  refine ⟨List.pairwise_cons.mpr ⟨fun other member watch mine => ?_, single⟩, nodup_written watching.unique move,
    InTurn.written watching.inTurn watching.last changes, fun key => ?_,
    List.forall_mem_cons.mpr ⟨sound, fun other member => ?_⟩⟩
  · rw [under] at mine
    exact apart other member watch mine
  · rw [mem_written, last_written]
    by_cases same : key = move.key
    · rw [if_pos same, if_pos same.symm]
      unfold FlagMove.note
      cases move.sets <;> simp [WatchNote.on]
    · rw [if_neg same, if_neg fun equal => same equal.symm]
      exact watching.last key
  · refine (watching.sound other (List.mem_cons_of_mem _ member)).elsewhere (apart other member rest.watch rfl)
      (fun key differ => ?_) fun key differ => ?_
    · rw [mem_written, if_neg fun same => differ (by rw [same, own])]
    · rw [last_written, if_neg fun same => differ (by rw [← same, own])]

/-- What is known of the moves behind one that has been made. -/
theorem Watching.written {move : FlagMove} {moves : List FlagMove} {rest : WatchRest}
    (watching : Watching board (.moving (move :: moves) rest :: others)) :
    (WatchCall.moving moves rest).Sound (move.write.execute board) := by
  -- The move is the first that was due, and what is left leads to the same.
  obtain ⟨fresh, due, leads⟩ := watching.sound _ List.mem_cons_self
  exact ⟨fresh, due.tail (mem_written board move),
    fun key same => (leads_tail due (mem_written board move)).trans (leads key same)⟩

/-- Dispatch is told of a write. -/
theorem Watching.tells {move : FlagMove} {moves : List FlagMove} {rest : WatchRest}
    (watching : Watching board (.telling move moves rest :: others)) :
    Watching (move.alert.execute board) (.moving moves rest :: others) := by
  -- Telling notes what the flag says already.
  obtain ⟨apart, single⟩ := List.pairwise_cons.mp watching.single
  obtain ⟨onward, own, last⟩ := watching.sound _ List.mem_cons_self
  have lasts := fun key => last_noted board board.flags move.key key (if move.sets then .raised else .resolved)
  refine ⟨List.pairwise_cons.mpr ⟨apart, single⟩, watching.unique, fun key => ?_, fun key => ?_,
    List.forall_mem_cons.mpr ⟨onward, fun other member => ?_⟩⟩
  · refine (watching.inTurn key).noted board.flags fun same => ?_
    rw [← same, last]
    unfold FlagMove.note
    cases move.sets <;> trivial
  · show key ∈ board.flags ↔ _
    rw [watching.last key]
    show _ ↔ (({ flags := board.flags, log := board.log ++ [(move.key, if move.sets then .raised else .resolved)] } :
      WatchBoard).last key).on = true
    rw [lasts]
    by_cases same : move.key = key
    · rw [if_pos same, ← same, last]
      unfold FlagMove.note
      cases move.sets <;> rfl
    · rw [if_neg same]
  · refine (watching.sound other (List.mem_cons_of_mem _ member)).elsewhere (apart other member rest.watch rfl)
      (fun key _ => Iff.rfl) fun key differ => ?_
    exact (lasts key).trans (if_neg fun same => differ (by rw [← same, own]))

/-- A check that has made its moves goes on to what is left of it. -/
theorem Watching.rests {rest : WatchRest} (watching : Watching board (.moving [] rest :: others)) :
    Watching board (rest.next :: others) := by
  obtain ⟨fresh, -, leads⟩ := watching.sound _ List.mem_cons_self
  refine watching.quiet (fun watch still => @underway_next (.moving [] rest) board {} watch still) ?_
  cases rest with
  | stale rows => trivial
  | settled ids flagged statuses => trivial
  | stuck ids flagged =>
    -- Only orders flagged before are asked about.
    cases flagged with
    | nil => trivial
    | cons first rest => exact ⟨fresh, fun key own => leads_nil.symm.trans (leads key own)⟩

/-- A step whose command fails ends the check. -/
theorem Watching.fails (watching : Watching board (call :: others)) (fails : answer.fails = true) :
    Watching ((call.next board answer).1.execute board) ((call.next board answer).2 :: others) := by
  cases call with
  -- What is told to dispatch is not waited for, so it does not fail here.
  | telling move moves rest => exact watching.tells
  | finished rest => exact watching
  | moving moves rest =>
    cases moves with
    | nil => exact watching.rests
    | cons move moves =>
      simp only [WatchCall.next, fails, if_true]
      exact watching.quiet nofun trivial
  | querying | readingStale | readingStuck | asking | dropped =>
    simp only [WatchCall.next, fails, if_true]
    exact watching.quiet nofun trivial

/-- And one whose command works leads on. -/
theorem Watching.proceeds (watching : Watching board (call :: others)) (works : answer.fails = false) :
    Watching ((call.next board answer).1.execute board) ((call.next board answer).2 :: others) := by
  -- A check does not change its kind on the way.
  have under : ∀ watch ∈ (call.next board answer).2.underway, watch ∈ call.underway := fun watch still =>
    underway_next still
  cases call with
  | telling move moves rest => exact watching.tells
  | finished rest => exact watching
  | dropped =>
    simp only [WatchCall.next, works, Bool.false_eq_true, if_false]
    exact watching
  -- The first of the moves is written, and told where it is to be told.
  | moving moves rest =>
    cases moves with
    | nil => exact watching.rests
    | cons move moves =>
      simp only [WatchCall.next, works, Bool.false_eq_true, if_false]
      obtain ⟨-, due, -⟩ := watching.sound _ List.mem_cons_self
      cases told : move.told with
      | false => exact watching.writes rfl watching.written
      | true =>
        refine watching.writes rfl ⟨watching.written, due.own move List.mem_cons_self, ?_⟩
        rw [last_written, if_pos rfl]
  | querying watch =>
    cases watch with
    | stale =>
      simp only [WatchCall.next, works, Bool.false_eq_true, if_false] at under ⊢
      exact watching.quiet under trivial
    | stuck =>
      simp only [WatchCall.next, works, Bool.false_eq_true, if_false] at under ⊢
      have distinct : answer.ids.rows.Nodup := by simpa using answer.ids.unique
      exact watching.quiet under distinct
  | readingStale rows =>
    simp only [WatchCall.next, works, Bool.false_eq_true, if_false] at under ⊢
    exact watching.quiet under ⟨trivial, staleMoves_due watching.unique rows, staleMoves_leads rows⟩
  -- What the query found is set against what is flagged.
  | readingStuck ids =>
    simp only [WatchCall.next, works, Bool.false_eq_true, if_false] at under ⊢
    have distinct : ids.Nodup := watching.sound _ List.mem_cons_self
    exact watching.quiet under
      ⟨nodup_flaggedStuck watching.unique, stuckMoves_due distinct, stuckMoves_leads ids⟩
  -- Those no longer stuck are asked for, and then cleared.
  | asking ids flagged =>
    simp only [WatchCall.next, works, Bool.false_eq_true, if_false] at under ⊢
    obtain ⟨distinct, there⟩ := watching.sound _ List.mem_cons_self
    have there : ∀ id, .order id ∈ board.flags ↔ id ∈ flagged ∨ id ∈ ids := fun id => there (.order id) rfl
    exact watching.quiet under ⟨distinct, settledMoves_due distinct (fun id had => (there id).mpr (.inl had)) _,
      settledMoves_leads _ there⟩

end Steps

/-- Checks of one kind that do not overlap keep the board. -/
theorem watching_keeps : watchSystem.Keeps Watching OneAtATime where
  perm same watching := by
    refine ⟨?_, watching.unique, watching.inTurn, watching.last, fun call member =>
      watching.sound call (same.mem_iff.mpr member)⟩
    exact (same.pairwise_iff fun apart watch mine yours => apart watch yours mine).mp watching.single
  moves := by
    intro pool index answer call others taken watching _
    cases fails : answer.fails with
    | true => exact watching.fails fails
    | false => exact watching.proceeds fails
  arrives := by
    intro pool watch watching free
    -- No check of its kind is under way, so it is alone of it.
    refine ⟨List.pairwise_cons.mpr ⟨fun other member mine begun also => ?_, watching.single⟩, watching.unique,
      watching.inTurn, watching.last, List.forall_mem_cons.mpr ⟨trivial, watching.sound⟩⟩
    cases begun
    exact free other member also
  stops := by
    intro pool index call others _ watching _
    exact watching.quiet nofun trivial
  happens := by
    intro pool event _ _ _
    exact nomatch event

/-- Nothing is flagged, and no check has begun. -/
theorem watching_start : Watching {} [] :=
  ⟨.nil, .nil, fun _ => List.isChain_singleton _, fun _ => iff_of_false List.not_mem_nil Bool.noConfusion, nofun⟩

/--
While no two checks of a kind overlap, dispatch hears of each driver and each order in turn: after a lost signal only
that it is back, or nothing until it is lost anew. That holds although any check may fail, or its process stop, at any
await of its own.
-/
theorem alerts_in_turn (events : List (PoolEvent Watch WatchAnswer Empty))
    (turns : Along watchSystem.step OneAtATime ⟨{}, []⟩ events) (key : WatchKey) :
    InTurn (run watchSystem.step ⟨{}, []⟩ events).shared key :=
  (@CallSystem.Keeps.throughout _ _ _ _ _ _ _ _ _ _ _ watching_keeps ⟨{}, []⟩ events watching_start turns).last.inTurn key

/-- One driver with work under way, and a last fix of some age. -/
def oneDriver (ageSeconds : ℚ) : WatchAnswer where
  rows := ⟨[("moses", ageSeconds)], List.nodup_singleton _⟩

/-- A check is cut off before dispatch is told; the signal is back later, and is lost again. -/
def lostAndBack : List (PoolEvent Watch WatchAnswer Empty) :=
  [.call .stale, .run 0 (oneDriver 120), .run 0 {}, .run 0 {}, .stop 0,
    .call .stale, .run 1 (oneDriver 5), .run 1 {}, .run 1 {}, .run 1 {}, .run 1 {},
    .call .stale, .run 2 (oneDriver 90), .run 2 {}, .run 2 {}, .run 2 {}, .run 2 {}]

/-- Dispatch is told that it is back, and that it is lost again. -/
theorem alerts_in_turn_lost :
    InTurn (run watchSystem.step ⟨{}, []⟩ lostAndBack).shared (.driver "moses") ∧
      (run watchSystem.step ⟨{}, []⟩ lostAndBack).shared.history (.driver "moses") =
        [.flagged, .cleared, .resolved, .flagged, .raised] := by
  -- No two checks of a kind are under way at once.
  refine ⟨alerts_in_turn lostAndBack ?_ (.driver "moses"), by decide +kernel⟩
  refine ⟨nofun, trivial, trivial, trivial, trivial, ?_, trivial, trivial, trivial, trivial, trivial, ?_, trivial,
    trivial, trivial, trivial, trivial, trivial⟩
  · intro call member
    rw [List.mem_singleton.mp member]
    exact nofun
  · intro call member
    rcases List.mem_cons.mp member with rfl | rest
    · exact nofun
    · rw [List.mem_singleton.mp rest]
      exact nofun

/-- A check that runs to its end leaves exactly those flagged it found in want of it, whatever was left by others. -/
theorem flags_settle (prior : List (PoolEvent Watch WatchAnswer Empty)) (index : Nat) (answer : WatchAnswer)
    (turns : Along watchSystem.step OneAtATime ⟨{}, []⟩ (prior ++ [.run index answer])) (result : WatchRest) :
    let pool := run watchSystem.step ⟨{}, []⟩ prior
    ∀ call ∈ pool.calls[index]?, call.underway ≠ none → (call.next pool.shared answer).2 = .finished result →
      ∀ key, key.watch = result.watch →
        (key ∈ (watchSystem.step pool (.run index answer)).shared.flags ↔ result.target key) := by
  intro pool call found begun ends key own
  have watching : Watching pool.shared pool.calls :=
    (@CallSystem.Keeps.throughout _ _ _ _ _ _ _ _ _ _ _ watching_keeps ⟨{}, []⟩ prior watching_start
      (along_append.mp turns).1).last
  have sound := watching.sound call (List.mem_of_getElem? found)
  rw [watchSystem.step_lockless rfl found]
  show key ∈ ((call.next pool.shared answer).1.execute pool.shared).flags ↔ _
  -- Only a check that has no writes left comes to its end.
  cases call with
  | moving moves rest =>
    cases moves with
    | nil =>
      obtain ⟨-, -, leads⟩ := sound
      show key ∈ pool.shared.flags ↔ _
      have ends : rest.next = .finished result := ends
      cases rest with
      -- A check for old fixes has no second part.
      | stale rows =>
        cases ends
        exact leads_nil.symm.trans (leads key own)
      | settled ids flagged statuses =>
        cases ends
        exact leads_nil.symm.trans (leads key own)
      -- Of the stuck orders the flagged ones have been asked for first.
      | stuck ids flagged =>
        cases flagged with
        | cons first others => cases ends
        | nil =>
          cases ends
          refine (leads_nil.symm.trans (leads key own)).trans ?_
          cases key with
          | driver name => cases own
          | order id => simp [WatchRest.target]
    | cons move moves =>
      simp only [WatchCall.next] at ends
      split at ends
      · cases ends
      · split at ends <;> cases ends
  -- Every other place is short of the end.
  | telling move moves rest => cases ends
  | finished rest => exact absurd rfl begun
  | dropped => exact absurd rfl begun
  | querying watch => cases watch <;> simp only [WatchCall.next] at ends <;> split at ends <;> cases ends
  | readingStale rows => simp only [WatchCall.next] at ends; split at ends <;> cases ends
  | readingStuck ids => simp only [WatchCall.next] at ends; split at ends <;> cases ends
  | asking ids flagged => simp only [WatchCall.next] at ends; split at ends <;> cases ends

/-- A check flags a driver whose fix is two minutes old. -/
theorem flags_settle_lost :
    .driver "moses" ∈ (run watchSystem.step ⟨{}, []⟩ [.call .stale, .run 0 (oneDriver 120), .run 0 {}, .run 0 {},
      .run 0 {}, .run 0 {}]).shared.flags := by
  -- The one check of the run is of its kind, and its fix is two minutes old.
  refine (flags_settle [.call .stale, .run 0 (oneDriver 120), .run 0 {}, .run 0 {}, .run 0 {}] 0 {}
    ⟨nofun, trivial, trivial, trivial, trivial, trivial, trivial⟩ (.stale (oneDriver 120).rows) _ rfl nofun rfl
    (.driver "moses") rfl).mpr ⟨120, List.mem_cons_self, ?_⟩
  decide

end Freight.Telemetry
