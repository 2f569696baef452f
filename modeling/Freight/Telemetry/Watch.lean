import Freight.Library.Pool
import Freight.Library.Table
import Freight.Store.Rows
import Mathlib.Data.Rat.Defs

/-! The two checks the telemetry queue runs on timers: signals that are lost, and deliveries that are never confirmed. -/

namespace Freight.Telemetry

/-- `checkStaleTelemetry` and `checkStuckArrivedOrders`. -/
inductive Watch where
  | stale
  | stuck
  deriving DecidableEq

/-- What is flagged: a driver in the hash of the first check, an order in that of the second. -/
inductive WatchKey where
  | driver (name : String)
  | order (id : Nat)
  deriving DecidableEq

/-- The check it is flagged by. -/
def WatchKey.watch : WatchKey → Watch
  | .driver _ => .stale
  | .order _ => .stuck

/-- What is done about it, in the order it is done. -/
inductive WatchNote where
  /-- `hashSet`. -/
  | flagged
  /-- Dispatch is told that the signal is lost, or the delivery not confirmed. -/
  | raised
  /-- `hashDelete`. -/
  | cleared
  /-- Dispatch is told that it is resolved. -/
  | resolved
  deriving DecidableEq

/-- The hashes of the two checks, and what has been done. -/
structure WatchBoard where
  flags : List WatchKey := []
  /-- Every write and every alert, written down for the proofs; no code reads it. -/
  log : List (WatchKey × WatchNote) := []

/-- A write a check is to make, and whether dispatch is told after it. -/
structure FlagMove where
  key : WatchKey
  /-- `hashSet`, or `hashDelete`. -/
  sets : Bool
  told : Bool
  deriving DecidableEq

/-- A driver with work under way, and how old the last fix is. -/
abbrev StaleRows := Table (String × ℚ) Prod.fst

/-- `STALE_TELEMETRY_THRESHOLD_SECONDS`. -/
def staleTelemetryThresholdSeconds : ℚ := 60

/-- The names under `DRIVER_STALE_KEY`. -/
def WatchBoard.flaggedStale (board : WatchBoard) : List String :=
  board.flags.filterMap fun key => match key with
    | .driver name => some name
    | .order _ => none

/-- The ids under `STUCK_ARRIVED_KEY`. -/
def WatchBoard.flaggedStuck (board : WatchBoard) : List Nat :=
  board.flags.filterMap fun key => match key with
    | .driver _ => none
    | .order id => some id

/-- What the first check does about a driver with work under way. -/
def staleMove (flagged : List String) (row : String × ℚ) : Option FlagMove :=
  let alreadyFlagged := row.1 ∈ flagged
  let isStale := staleTelemetryThresholdSeconds < row.2
  if isStale ∧ ¬alreadyFlagged then some { key := .driver row.1, sets := true, told := true }
  else if ¬isStale ∧ alreadyFlagged then some { key := .driver row.1, sets := false, told := true }
  else none

/-- What `checkStaleTelemetry` does: those with work first, and then whoever is flagged without any. -/
def staleMoves (rows : StaleRows) (flagged : List String) : List FlagMove :=
  rows.rows.filterMap (staleMove flagged) ++
    (flagged.filter fun name => name ∉ rows.rows.map Prod.fst).map fun name =>
      { key := .driver name, sets := false, told := false }

/-- What `checkStuckArrivedOrders` does about the orders it finds. -/
def stuckMoves (ids flagged : List Nat) : List FlagMove :=
  (ids.filter fun id => id ∉ flagged).map fun id => { key := .order id, sets := true, told := true }

/-- And then about the orders that were flagged before: the status of each is looked at again. -/
def settledMoves (flagged : List Nat) (statuses : Nat → Option OrderStatus) : List FlagMove :=
  (flagged.filter fun id => statuses id ≠ some .arrived).map fun id =>
    { key := .order id, sets := false, told := statuses id = some .delivered }

/-- What a check has read, and so what is left of it once its writes are made. -/
inductive WatchRest where
  | stale (rows : StaleRows)
  | stuck (ids flagged : List Nat)
  | settled (ids flagged : List Nat) (statuses : Nat → Option OrderStatus)

/-- A check, at the await it has reached. -/
inductive WatchCall where
  /-- About to send its query. -/
  | querying (watch : Watch)
  /-- About to read its hash. -/
  | readingStale (rows : StaleRows)
  | readingStuck (ids : List Nat)
  | moving (moves : List FlagMove) (rest : WatchRest)
  /-- Looking up the asset's label, to tell dispatch of a write. -/
  | telling (move : FlagMove) (moves : List FlagMove) (rest : WatchRest)
  /-- About to ask for the statuses of the orders that were flagged. -/
  | asking (ids flagged : List Nat)
  /-- It ran to its end. -/
  | finished (rest : WatchRest)
  /-- It failed somewhere, or its process stopped. -/
  | dropped

/-- What an await of a check comes to. -/
structure WatchAnswer where
  fails : Bool := false
  rows : StaleRows := .empty
  /-- The orders that arrived longer ago than the threshold. -/
  ids : Table Nat id := .empty
  statuses : Nat → Option OrderStatus := fun _ => none

/-- What a step of a check does. -/
inductive WatchStatement where
  | nothing
  | hashSet (key : WatchKey)
  | hashDelete (key : WatchKey)
  /-- `dispatchExternalAlert`. -/
  | alert (key : WatchKey) (note : WatchNote)
  deriving DecidableEq

/-- A statement, and what it makes of the board. -/
def WatchStatement.execute (statement : WatchStatement) (board : WatchBoard) : WatchBoard :=
  match statement with
  | .nothing => board
  | .hashSet key =>
    { flags := if key ∈ board.flags then board.flags else board.flags ++ [key], log := board.log ++ [(key, .flagged)] }
  | .hashDelete key => { flags := board.flags.filter (· ≠ key), log := board.log ++ [(key, .cleared)] }
  | .alert key note => { board with log := board.log ++ [(key, note)] }

/-- Where a check goes once its writes are made. -/
def WatchRest.next : WatchRest → WatchCall
  | .stuck ids [] => .finished (.settled ids [] fun _ => none)
  | .stuck ids (first :: others) => .asking ids (first :: others)
  | rest => .finished rest

/-- The write of a move. -/
def FlagMove.write (move : FlagMove) : WatchStatement :=
  if move.sets then .hashSet move.key else .hashDelete move.key

/-- What dispatch is told of it. -/
def FlagMove.alert (move : FlagMove) : WatchStatement :=
  .alert move.key (if move.sets then .raised else .resolved)

/-- What a check does next. -/
def WatchCall.next (board : WatchBoard) (answer : WatchAnswer) (call : WatchCall) : WatchStatement × WatchCall :=
  match call with
  -- The label is looked up with its failure caught, and nothing waits for the alert.
  | .telling move moves rest => (move.alert, .moving moves rest)
  | .moving [] rest => (.nothing, rest.next)
  | .finished rest => (.nothing, .finished rest)
  | call =>
    if answer.fails then (.nothing, .dropped) else
      match call with
      | .querying .stale => (.nothing, .readingStale answer.rows)
      | .querying .stuck => (.nothing, .readingStuck answer.ids.rows)
      | .readingStale rows => (.nothing, .moving (staleMoves rows board.flaggedStale) (.stale rows))
      | .readingStuck ids =>
        (.nothing, .moving (stuckMoves ids board.flaggedStuck) (.stuck ids board.flaggedStuck))
      | .moving (move :: moves) rest =>
        (move.write, if move.told then .telling move moves rest else .moving moves rest)
      | .asking ids flagged =>
        (.nothing, .moving (settledMoves flagged answer.statuses) (.settled ids flagged answer.statuses))
      | call => (.nothing, call)

/-- The checks on their timers, of whatever instances share the hashes. -/
def watchSystem : CallSystem WatchBoard WatchStatement Watch WatchCall WatchAnswer Empty Unit where
  start := .querying
  next := WatchCall.next
  execute := WatchStatement.execute
  holds _ := []
  needs _ := []
  outside event _ := nomatch event
  outsideNeeds _ := []
  stopped := .dropped

/-- The check it is of, while it is under way. -/
def WatchRest.watch : WatchRest → Watch
  | .stale _ => .stale
  | .stuck _ _ | .settled _ _ _ => .stuck

/-- The check that a call makes, until it has ended. -/
def WatchCall.underway : WatchCall → Option Watch
  | .querying watch => some watch
  | .readingStale _ => some .stale
  | .readingStuck _ | .asking _ _ => some .stuck
  | .moving _ rest | .telling _ _ rest => some rest.watch
  | .finished _ | .dropped => none

end Freight.Telemetry
