import Freight.Dispatch.Board
import Freight.Incidents.Dashboard
import Freight.Library.Pool

/-! The pre-departure checklist, and the defects that its failed checks raise against a vehicle. -/

namespace Freight.Safety

open Incidents Dispatch

/-- `SAFETY_CHECKLIST_ITEMS`. -/
inductive ItemKey where
  | seatbelt
  | mirrorsLights
  | tyres
  | cargo
  | fatigue
  deriving DecidableEq

/-- `ITEM_LABELS`. -/
def ItemKey.label : ItemKey → String
  | seatbelt => "Seatbelt fastened"
  | mirrorsLights => "Mirrors & lights checked"
  | tyres => "Tyre condition & pressure checked"
  | cargo => "Cargo secured"
  | fatigue => "Rested and fit to drive"

/-- `VALID_RESULTS`. -/
inductive ItemResult where
  | pass
  | fail
  | unchecked
  deriving DecidableEq

/-- A value in the `items` column. Rows from before there were results hold booleans. -/
inductive StoredItem where
  | ticked (value : Bool)
  | result (value : ItemResult)
  | other
  deriving DecidableEq

/-- The `items` column: a value for each item that has been answered. -/
abbrev Items := ItemKey → Option StoredItem

/-- A row of `driver_safety_checklists`: one driver's on one day. -/
structure Checklist where
  driverUsername : String
  checklistDate : Nat
  items : Items := fun _ => none
  vehicleId : Option Nat := none

/-- `geofence_alerts.event_type`. -/
inductive AlertKind where
  | vehicleDefect
  | manualIncident
  /-- What the telemetry raises by itself. -/
  | automatic (name : String)
  deriving DecidableEq

/-- A row of `geofence_alerts`. -/
structure Alert where
  id : Nat
  driverName : String
  eventType : AlertKind
  description : String
  status : IncidentStatus := .opened
  severity : Option String := none
  resolvedBy : Option String := none
  resolvedAt : Option Nat := none
  vehicleId : Option Nat := none
  createdAt : Nat
  deriving DecidableEq

/-- What the checklist endpoints read and write. -/
structure SafetyStore where
  checklists : Table Checklist fun row => (row.driverUsername, row.checklistDate) := .empty
  alerts : Table Alert fun alert => alert.id := .empty
  users : Table User fun user => user.username := .empty
  vehicles : Table FleetVehicle fun vehicle => vehicle.id := .empty
  /-- `NOW()`, in seconds. -/
  now : Nat := 0

/-- The day of a time. -/
def dayOf (time : Nat) : Nat := time / 86400

/-- `CURRENT_DATE`. -/
def SafetyStore.today (store : SafetyStore) : Nat := dayOf store.now

/-- The vehicles in service that a driver holds. -/
def SafetyStore.drivenBy (store : SafetyStore) (username : String) : List FleetVehicle :=
  store.vehicles.rows.filter fun vehicle => (store.users.find? username).any fun user =>
    vehicle.currentDriverId = some user.id && vehicle.status = "ACTIVE"

/-- The longest note a defect keeps. -/
def maxNoteLength : Nat := 300

/-- A dash and the note, where there is one. -/
def detail (note : Option String) : String :=
  match note.map fun text => trim text.toList with
  | none | some [] => ""
  | some text => " — " ++ String.ofList (takeUnits maxNoteLength text)

/-- The description of the defect a failed check raises. -/
def defectDescription (key : ItemKey) (note : Option String) : String :=
  "Pre-departure check failed: " ++ key.label ++ detail note

/-- The body of a `PATCH`. What is no item, or no result, is read as none. -/
structure ItemUpdate where
  itemKey : Option ItemKey
  checked : Option Bool := none
  /-- Left out, or given. -/
  result : Option (Option ItemResult) := none
  note : Option String := none

/-- The answer the body gives, in the words of an old app or of a new one. -/
def ItemUpdate.resolved (update : ItemUpdate) : Option ItemResult :=
  match update.result with
  | some given => given
  | none => update.checked.map fun ticked => if ticked then .pass else .unchecked

/-- How a request is refused. -/
inductive ChecklistFailure where
  /-- `SAFETY_CHECKLIST_INVALID_ITEM`, with status 400. -/
  | invalidItem
  /-- `SAFETY_CHECKLIST_INVALID_VALUE`, with status 400. -/
  | invalidValue
  /-- `SAFETY_CHECKLIST_UPDATE_FAILED`, with status 500. -/
  | updateFailed
  deriving DecidableEq

/-- An answer to one item, of one driver. -/
structure ItemAnswer where
  username : String
  key : ItemKey
  result : ItemResult
  note : Option String := none

/-- A call of `updateChecklistItem`, at the statement it has reached. -/
inductive ChecklistCall where
  /-- About to look up which vehicle the driver is on. -/
  | findingVehicle (answer : ItemAnswer)
  /-- About to merge the answer into the day's row. -/
  | merging (answer : ItemAnswer) (vehicleId : Option Nat)
  /-- The check has failed, and its defect is about to be raised. -/
  | raising (answer : ItemAnswer) (vehicleId : Option Nat)
  | answered
  | refused (failure : ChecklistFailure)
  | stopped

/-- What is called: `updateChecklistItem`, with the driver of the token. -/
structure ChecklistEntry where
  username : String
  body : ItemUpdate

/-- Where a call begins. -/
def ChecklistEntry.start (entry : ChecklistEntry) : ChecklistCall :=
  match entry.body.itemKey with
  | none => .refused .invalidItem
  | some key =>
    match entry.body.resolved with
    | none => .refused .invalidValue
    | some result => .findingVehicle { username := entry.username, key, result, note := entry.body.note }

/-- What comes back from the store: whether the statement works, and which of several rows is returned. -/
structure StoreAnswer where
  works : Bool := true
  row : Nat := 0

/-- The statement a call runs. -/
inductive ChecklistStatement where
  | unseen
  | merge (answer : ItemAnswer) (vehicleId : Option Nat)
  | raise (answer : ItemAnswer) (vehicleId : Option Nat)

/-- `items || patch`: one item is written, and the others stay. -/
def merged (items : Items) (key : ItemKey) (result : ItemResult) : Items :=
  Function.update items key (some (.result result))

/-- The defect a failed check raises. -/
def ItemAnswer.defect (answer : ItemAnswer) (vehicleId : Option Nat) (now id : Nat) : Alert where
  id := id
  driverName := answer.username
  eventType := .vehicleDefect
  description := defectDescription answer.key answer.note
  vehicleId := vehicleId
  createdAt := now

/-- What a statement does. -/
def ChecklistStatement.execute (statement : ChecklistStatement) (store : SafetyStore) : SafetyStore :=
  match statement with
  | .unseen => store
  -- One row a driver and day; an item sent again replaces its own answer.
  | .merge answer vehicleId =>
    { store with
      checklists := store.checklists.upsert
        { driverUsername := answer.username, checklistDate := store.today
          items := merged (fun _ => none) answer.key answer.result, vehicleId := vehicleId }
        (fun row => { row with
          items := merged row.items answer.key answer.result, vehicleId := vehicleId.or row.vehicleId })
        fun _ => rfl }
  | .raise answer vehicleId =>
    { store with alerts := store.alerts.insert (answer.defect vehicleId store.now) fun _ => rfl }

/-- The statement a call is at, and where the call stands once it has run. -/
def ChecklistCall.next (store : SafetyStore) (back : StoreAnswer) :
    ChecklistCall → ChecklistStatement × ChecklistCall
  | .findingVehicle answer =>
    if back.works then
      -- Of several vehicles any one may come back.
      let driven := store.drivenBy answer.username
      (.unseen, .merging answer (driven[back.row % driven.length]?.map FleetVehicle.id))
    else (.unseen, .refused .updateFailed)
  | .merging answer vehicleId =>
    if back.works then
      (.merge answer vehicleId, if answer.result = .fail then .raising answer vehicleId else .answered)
    else (.unseen, .refused .updateFailed)
  | .raising answer vehicleId =>
    if back.works then (.raise answer vehicleId, .answered) else (.unseen, .refused .updateFailed)
  | done => (.unseen, done)

/-- What else is written to the rows the checklist shares with incidents and telemetry, and to those it reads. -/
inductive SafetyEvent where
  /-- `createIncident`. -/
  | createIncident (driverName description : String)
  /-- `updateIncidentStatus`, for whatever id the office names. -/
  | updateIncidentStatus (id : Nat) (status : IncidentStatus) (reviewer : String)
  /-- `finalizeIncidentAnalysis`. -/
  | finalizeIncidentAnalysis (id : Nat) (description : String) (severity : Option String)
  /-- A geofence or a speed limit is broken, or a destination reached. -/
  | telemetryAlert (driverName name description : String)
  /-- Accounts and vehicles change. -/
  | elsewhere (users : Table User fun user => user.username)
      (vehicles : Table FleetVehicle fun vehicle => vehicle.id)
  /-- A vehicle is deleted, and the rows that name it forget it. -/
  | vehicleDeleted (vehicleId : Nat)
  | later (elapsed : Nat)

/-- An `UPDATE … WHERE id = … AND event_type = 'MANUAL_INCIDENT'`. -/
def SafetyStore.updateIncident (store : SafetyStore) (id : Nat) (change : Alert → Alert)
    (keeps : ∀ alert, (change alert).id = alert.id) : SafetyStore :=
  { store with
    alerts := store.alerts.updateWhere (fun alert => alert.id = id && alert.eventType = .manualIncident)
      change keeps }

/-- What such an event does. -/
def SafetyEvent.happens : SafetyEvent → SafetyStore → SafetyStore
  | .createIncident driverName description, store =>
    { store with
      alerts := store.alerts.insert (fun id =>
        { id, driverName, eventType := .manualIncident, description, createdAt := store.now }) fun _ => rfl }
  -- It finds manual incidents only.
  | .updateIncidentStatus id status reviewer, store =>
    store.updateIncident id (fun alert => { alert with
      status := status
      resolvedBy := if status = .resolved then some reviewer else alert.resolvedBy
      resolvedAt := if status = .resolved then some store.now else alert.resolvedAt }) fun _ => rfl
  | .finalizeIncidentAnalysis id description severity, store =>
    store.updateIncident id (fun alert => { alert with description := description, severity := severity })
      fun _ => rfl
  | .telemetryAlert driverName name description, store =>
    { store with
      alerts := store.alerts.insert (fun id =>
        { id, driverName, eventType := .automatic name, description, createdAt := store.now }) fun _ => rfl }
  | .elsewhere users vehicles, store => { store with users := users, vehicles := vehicles }
  -- ON DELETE SET NULL, on checklists and on alerts.
  | .vehicleDeleted vehicleId, store =>
    { store with
      vehicles := store.vehicles.deleteWhere fun vehicle => vehicle.id = vehicleId
      checklists := store.checklists.updateWhere (fun row => row.vehicleId = some vehicleId)
        (fun row => { row with vehicleId := none }) fun _ => rfl
      alerts := store.alerts.updateWhere (fun alert => alert.vehicleId = some vehicleId)
        (fun alert => { alert with vehicleId := none }) fun _ => rfl }
  | .later elapsed, store => { store with now := store.now + elapsed }

/-- The checklist endpoint, among everything else that writes what it shares. -/
def safetySystem : CallSystem SafetyStore ChecklistStatement ChecklistEntry ChecklistCall StoreAnswer SafetyEvent
    Unit where
  start := ChecklistEntry.start
  next := ChecklistCall.next
  execute := ChecklistStatement.execute
  holds _ := []
  needs _ := []
  outside := SafetyEvent.happens
  outsideNeeds _ := []
  stopped := .stopped

/-- How many defects a driver is shown. -/
def shownDefects : Nat := 20

/-- An open defect of one of the vehicles a driver is on. -/
def SafetyStore.concerns (store : SafetyStore) (username : String) (alert : Alert) : Bool :=
  alert.eventType = .vehicleDefect && alert.status = .opened &&
    (store.drivenBy username).any fun vehicle => alert.vehicleId = some vehicle.id

/-- `getOpenVehicleDefects`: the newest of them. -/
def getOpenVehicleDefects (store : SafetyStore) (username : String) : List Alert :=
  ((store.alerts.rows.filter (store.concerns username)).insertionSort
    fun one other => other.createdAt ≤ one.createdAt).take shownDefects

end Freight.Safety
