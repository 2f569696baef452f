import Mathlib.Logic.Function.Basic
import Freight.Library.Run
import Freight.Telemetry.Drain
import Freight.Telemetry.Fixes

/-! The telemetry queue in Redis, and any number of server instances that drain it, an await at a time. -/

namespace Freight.Telemetry

open Dispatch (Point)

/-- An item as it lies in the list, with the place it was pushed at. -/
structure QueuedFix where
  /-- Not stored: how many items had been pushed before it. -/
  serial : Nat
  driverName : String
  item : TelemetryItem
  deriving DecidableEq

/-- How far `processTelemetryItem` has come with an item, by what it awaits. -/
inductive ItemCall where
  | insertHistory
  | selectFix
  | upsertFix (shown : Point)
  | selectZone (shown : Point)
  | readBreach (shown : Point) (zone : Option Geofence)
  | writeBreach (shown : Point) (breach : Option Breach) (eventType : AlertType) (description : Description)
  | selectOrder (shown : Point) (eventType : AlertType) (description : Description)
  | insertAlert (shown : Point) (eventType : AlertType) (description : Description) (orderId : Option Nat)
  /-- `getVehicleTypeForDriver`, from its cache or from the table. -/
  | selectVehicle (shown : Point)
  | writeState (shown : Point) (vehicleType : Option String)
  deriving DecidableEq

/-- The statement an item is at, and what it awaits next, nothing once it has been processed. -/
def ItemCall.next (metres : Point → Point → ℚ) (fix : QueuedFix) (answers : Answers) (track : Tracking) :
    ItemCall → Tracking × Option ItemCall
  -- The trail first, and then where the driver is shown.
  | .insertHistory =>
    ({ track with trail := track.trail ++ [⟨fix.item.position, fix.item.currentVelocityKmh⟩] }, some .selectFix)
  | .selectFix => (track, some (.upsertFix (displayPosition metres track.shown fix.item.position)))
  | .upsertFix shown => ({ track with shown := some shown }, some (.selectZone shown))
  | .selectZone shown => (track, some (.readBreach shown answers.activeZone))
  -- Whether anything new is going on is decided here.
  | .readBreach shown zone =>
    (track, some (match zone with
      | some zone =>
        let type := violationType zone fix.item.currentVelocityKmh
        let description := violationDescription zone fix.item.currentVelocityKmh
        if ongoing track.breach zone type then .selectVehicle shown
        else .writeBreach shown (some ⟨zone.name, type, description⟩) (.violation type) description
      | none =>
        match track.breach with
        | none => .selectVehicle shown
        | some breach => .writeBreach shown none .zoneExit (.exited fix.driverName breach.zoneName)))
  | .writeBreach shown breach eventType description =>
    ({ track with breach := breach }, some (.selectOrder shown eventType description))
  | .selectOrder shown eventType description =>
    (track, some (.insertAlert shown eventType description answers.activeOrder))
  | .insertAlert shown eventType description orderId =>
    ({ track with alerts := track.alerts ++ [⟨orderId, eventType, description⟩] }, some (.selectVehicle shown))
  | .selectVehicle shown => (track, some (.writeState shown answers.vehicleType))
  -- The live state is the last thing an item writes.
  | .writeState shown vehicleType =>
    ({ track with live := some ⟨shown, fix.item.currentVelocityKmh, fix.item.timestamp, vehicleType⟩ }, none)

/-- How far `flushQueue` has come in an instance, by what it awaits. While there is none, nothing is draining. -/
inductive Drain where
  /-- `listLength`. -/
  | measure
  /-- An `lPop` of `listPopBatch`, after these. -/
  | pop (batch : List QueuedFix)
  /-- A statement of an item, with the rest of the batch behind it. -/
  | process (fix : QueuedFix) (call : ItemCall) (rest : List QueuedFix)

/-- The items that have left the list and are in the memory of a drain. -/
def Drain.held : Drain → List QueuedFix
  | .measure => []
  | .pop batch => batch
  | .process fix _ rest => fix :: rest

/-- The loop over a batch: its next item, or the length once more. -/
def processBatch : List QueuedFix → Drain
  | [] => .measure
  | fix :: rest => .process fix .insertHistory rest

/-- A statement that has been run for an item. -/
structure Ran where
  server : Nat
  fix : QueuedFix
  call : ItemCall
  /-- It threw, and the error was logged. -/
  fails : Bool

/-- Redis, the tables, and every instance. -/
structure Cluster where
  /-- The list behind `kigali:telemetry:queue`. -/
  queue : List QueuedFix := []
  /-- What each instance is draining. An instance that is down drains nothing. -/
  drains : Nat → Option Drain := fun _ => none
  /-- All that is kept of each driver. -/
  tracks : String → Tracking := fun _ => {}
  /-- Not stored: every item `listPush` has succeeded for. -/
  pushed : List QueuedFix := []
  /-- Not stored: every item that has been processed, or whose failure has been logged. -/
  processed : List QueuedFix := []
  /-- Not stored: every statement that was run for an item. -/
  log : List Ran := []

/-- What can happen next. -/
inductive ClusterEvent where
  /-- An instance is sent a fix, and pushes it. -/
  | enqueue (driverName : String) (item : TelemetryItem) (fails : Bool)
  /-- `flushQueue` is called in an instance. -/
  | flush (server : Nat)
  /-- What an instance awaits comes back, or throws. -/
  | resume (server : Nat) (fails : Bool) (answers : Answers)
  /-- An instance dies, and may be started again. -/
  | crash (server : Nat)

namespace Cluster

variable (metres : Point → Point → ℚ) (cluster : Cluster)

/-- An instance goes on with another drain, or with none. -/
def drainWith (server : Nat) (drain : Option Drain) : Cluster :=
  { cluster with drains := Function.update cluster.drains server drain }

/-- What an instance has in memory. -/
def held (server : Nat) : List QueuedFix := ((cluster.drains server).map Drain.held).getD []

/-- A statement of an item is run, and the batch goes on behind it. -/
def runStatement (server : Nat) (fix : QueuedFix) (call : ItemCall) (rest : List QueuedFix) (fails : Bool)
    (answers : Answers) : Cluster :=
  let next := if fails then (cluster.tracks fix.driverName, none)
    else call.next metres fix answers (cluster.tracks fix.driverName)
  let ran : Cluster := { cluster with
    tracks := Function.update cluster.tracks fix.driverName next.1
    log := cluster.log ++ [{ server := server, fix := fix, call := call, fails := fails }] }
  match next.2 with
  | some call => ran.drainWith server (some (.process fix call rest))
  -- A failure is logged, and the next item follows.
  | none => { ran.drainWith server (some (processBatch rest)) with processed := cluster.processed ++ [fix] }

/-- What a drain does when what it awaits comes back. -/
def resumeDrain (server : Nat) (fails : Bool) (answers : Answers) : Drain → Cluster
  | .measure =>
    if fails || cluster.queue.isEmpty then cluster.drainWith server none
    else cluster.drainWith server (some (.pop []))
  | .pop batch =>
    -- An error leaves `listPopBatch` with what it has popped so far.
    if fails then cluster.drainWith server none
    else match cluster.queue with
      | [] => cluster.drainWith server (some (processBatch batch))
      | fix :: rest =>
        let batch := batch ++ [fix]
        { cluster with queue := rest }.drainWith server
          (some (if batch.length < defaultBatchSize then .pop batch else processBatch batch))
  | .process fix call rest => cluster.runStatement metres server fix call rest fails answers

/-- One event. -/
def step : ClusterEvent → Cluster
  | .enqueue driverName item fails =>
    if fails then cluster
    else
      let fix : QueuedFix := { serial := cluster.pushed.length, driverName := driverName, item := item }
      { cluster with queue := cluster.queue ++ [fix], pushed := cluster.pushed ++ [fix] }
  | .flush server =>
    -- `draining`: a second call returns at once.
    if (cluster.drains server).isSome then cluster else cluster.drainWith server (some .measure)
  | .resume server fails answers =>
    match cluster.drains server with
    | none => cluster
    | some drain => cluster.resumeDrain metres server fails answers drain
  | .crash server => cluster.drainWith server none

/-- Every item is in the list, in the memory of a live instance, or has been processed. -/
def Survives : Prop :=
  ∀ fix ∈ cluster.pushed, fix ∈ cluster.queue ∨ (∃ server, fix ∈ cluster.held server) ∨ fix ∈ cluster.processed

/-- The items of one driver are processed in the order in which they were pushed. -/
def InOrder : Prop :=
  cluster.log.Pairwise fun earlier later =>
    earlier.fix.driverName = later.fix.driverName → earlier.fix.serial ≤ later.fix.serial

end Cluster

/-- Something kept of a driver, and the statements that write it. -/
structure Column (β : Type) where
  initial : β
  current : Tracking → β
  /-- What a statement writes, where it writes anything. -/
  writes : QueuedFix → ItemCall → Option β

/-- What a statement that was run has written. -/
def Ran.wrote {β : Type} (column : Column β) (ran : Ran) : Option β :=
  if ran.fails then none else column.writes ran.fix ran.call

/-- The row of `driver_locations`. -/
def positionColumn : Column (Option Point) where
  initial := none
  current := Tracking.shown
  writes := fun _ call => match call with
    | .upsertFix shown => some (some shown)
    | _ => none

/-- The hash of breaches. -/
def breachColumn : Column (Option Breach) where
  initial := none
  current := Tracking.breach
  writes := fun _ call => match call with
    | .writeBreach _ breach _ _ => some breach
    | _ => none

/-- The hash of live states. -/
def liveColumn : Column (Option LiveState) where
  initial := none
  current := Tracking.live
  writes := fun fix call => match call with
    | .writeState shown vehicleType =>
      some (some ⟨shown, fix.item.currentVelocityKmh, fix.item.timestamp, vehicleType⟩)
    | _ => none

/-- What is kept of each driver is what the newest of the items that wrote it has written. -/
def Cluster.EndsOnNewest {β : Type} (cluster : Cluster) (column : Column β) : Prop :=
  ∀ driverName,
    -- Nothing has written it yet.
    (column.current (cluster.tracks driverName) = column.initial ∧
      ∀ ran ∈ cluster.log, ran.fix.driverName = driverName → ran.wrote column = none) ∨
    -- Or what stands there is from the newest that has.
    ∃ ran ∈ cluster.log, ran.fix.driverName = driverName ∧
      ran.wrote column = some (column.current (cluster.tracks driverName)) ∧
      ∀ other ∈ cluster.log, other.fix.driverName = driverName → other.wrote column ≠ none →
        other.fix.serial ≤ ran.fix.serial

/-- Nothing is lost, and everything is applied in order. -/
structure Cluster.Sound (cluster : Cluster) : Prop where
  survives : cluster.Survives
  inOrder : cluster.InOrder
  position : cluster.EndsOnNewest positionColumn
  breach : cluster.EndsOnNewest breachColumn
  live : cluster.EndsOnNewest liveColumn

/-- An instance neither dies nor loses Redis with items in its memory, and none is overtaken by another. -/
def Cluster.Orderly (cluster : Cluster) : ClusterEvent → Prop
  | .enqueue _ _ _ | .flush _ => True
  -- An instance that dies has nothing in hand.
  | .crash server => cluster.held server = []
  | .resume server fails _ =>
    match cluster.drains server with
    | some (.pop batch) => fails = true → batch = []
    | some (.process fix _ _) => ∀ ran ∈ cluster.log, ran.server ≠ server →
        ran.fix.driverName = fix.driverName → ran.fix.serial ≤ fix.serial
    | _ => True

end Freight.Telemetry
