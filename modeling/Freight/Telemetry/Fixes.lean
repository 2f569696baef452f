import Freight.Dispatch.Board
import Freight.Library.Visits

/-! What a driver's phone reports, and what `processTelemetryItem` makes of it. -/

namespace Freight.Telemetry

open Dispatch (Point)

/-- An item of the telemetry queue. -/
structure TelemetryItem where
  position : Point
  timestamp : Nat
  /-- Null where the phone has not measured it. -/
  currentVelocityKmh : Option ℚ
  deriving DecidableEq

/-- A row of `geofences`. -/
structure Geofence where
  name : String
  speedLimitKmh : Int
  deriving DecidableEq

/-- `violationType`. -/
inductive ViolationType where
  | speedViolation
  | boundaryBreach
  deriving DecidableEq

/-- `geofence_alerts.event_type`. -/
inductive AlertType where
  | violation (type : ViolationType)
  | zoneExit
  deriving DecidableEq

/-- `geofence_alerts.description`, by what it says. -/
inductive Description where
  | speeding (zone : String) (value : ℚ) (limit : Int)
  | entered (zone : String)
  | exited (driver zone : String)
  deriving DecidableEq

/-- The zone it is about. -/
def Description.zone : Description → String
  | .speeding zone _ _ | .entered zone | .exited _ zone => zone

/-- A row of `geofence_alerts`. -/
structure GeofenceAlert where
  orderId : Option Nat
  eventType : AlertType
  description : Description
  deriving DecidableEq

/-- What is kept of a driver in the hash of breaches. -/
structure Breach where
  zoneName : String
  type : ViolationType
  description : Description
  deriving DecidableEq

/-- A row of `driver_location_history`. -/
structure LocationHistory where
  position : Point
  speedKmh : Option ℚ
  deriving DecidableEq

/-- What the live map is told of a driver. -/
structure LiveState where
  position : Point
  velocityKmh : Option ℚ
  lastSeen : Nat
  vehicleType : Option String
  deriving DecidableEq

/-- What an item is answered by while it is processed. -/
structure Answers where
  /-- The zone the fix lies in, as the query answers it. -/
  activeZone : Option Geofence
  /-- The latest order of the driver's that is still under way. -/
  activeOrder : Option Nat
  vehicleType : Option String
  now : Nat

/-- What processing an item waits for. -/
inductive Await where
  | insertHistory
  | selectFix
  | upsertFix
  | selectZone
  | readBreach
  | writeBreach
  | selectOrder
  | insertAlert
  | selectVehicle
  | writeState
  deriving DecidableEq

/-- All that is kept of one driver. -/
structure Tracking where
  trail : List LocationHistory := []
  /-- The row of `driver_locations`. -/
  shown : Option Point := none
  breach : Option Breach := none
  alerts : List GeofenceAlert := []
  /-- `vehicleTypeCache`, with the time its entry expires. -/
  vehicleTypeCache : Option (Option String × Nat) := none
  live : Option LiveState := none

/-- `POSITION_NOISE_FLOOR_METERS`. -/
def positionNoiseFloorMeters : ℚ := 15

/-- `VEHICLE_TYPE_CACHE_TTL_MS`. -/
def vehicleTypeCacheTtlMs : Nat := 30000

/-- Where the driver is shown: a move within the noise floor is none. -/
def displayPosition (metres : Point → Point → ℚ) (previous : Option Point) (position : Point) : Point :=
  match previous with
  | none => position
  | some previous => if positionNoiseFloorMeters < metres previous position then position else previous

/-- The violation a fix in a zone is. A speed that was not measured is not a high one. -/
def violationType (zone : Geofence) (velocity : Option ℚ) : ViolationType :=
  if velocity.any fun value => (zone.speedLimitKmh : ℚ) < value then .speedViolation else .boundaryBreach

/-- What is said of it. -/
def violationDescription (zone : Geofence) (velocity : Option ℚ) : Description :=
  match velocity with
  | none => .entered zone.name
  | some value =>
    if (zone.speedLimitKmh : ℚ) < value then .speeding zone.name value zone.speedLimitKmh
    else .entered zone.name

/-- The violation is in progress already. -/
def ongoing (breach : Option Breach) (zone : Geofence) (type : ViolationType) : Bool :=
  breach.any fun breach => breach.zoneName = zone.name && breach.type = type

/--
An alert being recorded, its order looked up first.

What is false on the right is that the item goes on: a statement that fails throws.
-/
def recordAlert (failing : Option Await) (answers : Answers) (eventType : AlertType)
    (description : Description) (track : Tracking) : Tracking × Bool :=
  if failing = some .selectOrder ∨ failing = some .insertAlert then (track, false)
  else ({ track with alerts := track.alerts ++ [⟨answers.activeOrder, eventType, description⟩] }, true)

/-- The part of `processTelemetryItem` about zones. -/
def checkZones (driverName : String) (failing : Option Await) (answers : Answers) (item : TelemetryItem)
    (track : Tracking) : Tracking × Bool :=
  match answers.activeZone with
  | some zone =>
    let type := violationType zone item.currentVelocityKmh
    let description := violationDescription zone item.currentVelocityKmh
    if ongoing track.breach zone type then (track, true)
    else if failing = some .writeBreach then (track, false)
    -- The hash says so before the alert is recorded.
    else recordAlert failing answers (.violation type) description
      { track with breach := some ⟨zone.name, type, description⟩ }
  | none =>
    match track.breach with
    | none => (track, true)
    | some breach =>
      if failing = some .writeBreach then (track, false)
      else recordAlert failing answers .zoneExit (.exited driverName breach.zoneName)
        { track with breach := none }

/-- `getVehicleTypeForDriver`. -/
def vehicleTypeForDriver (failing : Option Await) (answers : Answers) (track : Tracking) :
    Option (Option String × Tracking) :=
  match track.vehicleTypeCache.filter fun cached => answers.now < cached.2 with
  | some cached => some (cached.1, track)
  | none =>
    if failing = some .selectVehicle then none
    -- That a driver has no vehicle is remembered as well.
    else some (answers.vehicleType, { track with
      vehicleTypeCache := some (answers.vehicleType, answers.now + vehicleTypeCacheTtlMs) })

/-- The end of `processTelemetryItem`: the live map is told. -/
def publishState (failing : Option Await) (answers : Answers) (item : TelemetryItem) (shown : Point)
    (track : Tracking) : Tracking :=
  match vehicleTypeForDriver failing answers track with
  | none => track
  | some (vehicleType, track) =>
    if failing = some .writeState then track
    else { track with live := some ⟨shown, item.currentVelocityKmh, item.timestamp, vehicleType⟩ }

/-- The beginning of `processTelemetryItem`: the trail, and where the driver is shown. -/
def recordFix (metres : Point → Point → ℚ) (failing : Option Await) (item : TelemetryItem)
    (track : Tracking) : Tracking × Option Point :=
  if failing = some .insertHistory then (track, none)
  else
    -- The trail takes the fix as it came.
    let track := { track with trail := track.trail ++ [⟨item.position, item.currentVelocityKmh⟩] }
    if failing = some .selectFix then (track, none)
    else
      -- On the map a driver does not move for a small distance.
      let shown := displayPosition metres track.shown item.position
      if failing = some .upsertFix then (track, none)
      else
        let track := { track with shown := some shown }
        if failing = some .selectZone ∨ failing = some .readBreach then (track, none)
        else (track, some shown)

/-- `processTelemetryItem`, with the error of a statement that fails caught by `flushQueue`. -/
def processTelemetryItem (metres : Point → Point → ℚ) (driverName : String) (failing : Option Await)
    (answers : Answers) (item : TelemetryItem) (track : Tracking) : Tracking :=
  match recordFix metres failing item track with
  -- A statement that fails ends the item there, with what it has written so far.
  | (track, none) => track
  | (track, some shown) =>
    match checkZones driverName failing answers item track with
    | (track, false) => track
    | (track, true) => publishState failing answers item shown track

end Freight.Telemetry
