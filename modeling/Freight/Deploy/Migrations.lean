import Mathlib.Data.List.Sort
import Freight.Library.Reserve
import Freight.Library.Pool

/-! Schema migrations, up and down, a statement at a time: `bin/migrate.js` and `bin/migrate-down.js`. -/

namespace Freight.Deploy

/-- `MIGRATIONS`, in the order they are applied in. -/
def migrations : List String :=
  ["init_spatial_baseline.sql", "create_users.sql", "add_full_schema.sql", "create_geofences.sql",
    "add_geofence_speed_limit.sql", "consolidate_roles.sql", "add_push_tokens.sql",
    "fix_refresh_tokens_schema.sql", "fix_refresh_tokens_drop_user_id.sql", "add_delivery_confirmations.sql",
    "fix_order_status_constraint.sql", "add_capacity_and_integrity.sql", "add_delivery_flag_and_consignee.sql",
    "add_incident_status.sql", "create_vehicle_types.sql", "add_user_status.sql",
    "create_driver_documents.sql", "add_driver_phone_auth.sql", "add_driver_invites.sql", "add_otp_codes.sql",
    "add_driver_document_hash.sql", "add_driver_document_ai_analysis.sql",
    "add_incident_photo_and_ai_triage.sql", "add_kiosk_devices.sql", "add_kiosk_devices_last_seen.sql",
    "add_totp_mfa.sql", "add_dispatch_settings.sql", "add_order_priority.sql",
    "add_driver_safety_checklists.sql", "add_public_orders.sql", "add_user_suspension.sql",
    "add_order_needed_by.sql", "add_trips_and_stops.sql", "retire_delivery_stops.sql",
    "add_document_expiry_and_vehicle_documents.sql", "add_telemetry_speed.sql", "add_vehicle_defects.sql",
    "add_pricing.sql", "add_pricing_calibration.sql", "add_pricing_route_factors.sql",
    "add_route_corridors.sql", "add_order_detention.sql", "add_pickup_detention.sql",
    "add_backfill_credit.sql", "add_operator_licence.sql", "add_job_offers.sql", "add_currency_and_market.sql",
    "add_delivery_code.sql", "add_place_hints.sql", "add_otp_delivery_status.sql", "add_saved_views.sql",
    "add_location_check_unknown.sql", "add_momo_payments.sql", "add_one_pending_payment_per_order.sql",
    "add_settlement_adjustment.sql", "add_cash_collection.sql", "add_return_leg_taper.sql",
    "add_cash_recovery.sql", "add_cash_settlements.sql"]

/-- `LEGACY_DESTRUCTIVE_MIGRATION`. -/
def legacyDestructiveMigration : String := "init_spatial.sql"

/-- What a deployment that predates the records is marked with. -/
def baselineMigrations : List String := ["init_spatial_baseline.sql", legacyDestructiveMigration]

/-- The migration files, over whatever a schema is. -/
structure MigrationConfig (S : Type) where
  /-- Running the file of that name, which may fail. -/
  up : String → S → Option S
  /-- The file of that name in `down`, where there is one. -/
  down : String → Option (S → Option S)
  /-- Whether there is a table of that name. -/
  tableExists : S → String → Bool

/-- A row of `schema_migrations`. -/
structure Applied where
  id : String
  appliedAt : Nat
  deriving DecidableEq

/-- The schema, and the record of what has been applied to it, oldest first. -/
structure Database (S : Type) where
  schema : S
  applied : List Applied := []

section Model

variable {S : Type}

/-- The ids on record. -/
def Database.ids (db : Database S) : List String := db.applied.map Applied.id

/-- `INSERT … ON CONFLICT (id) DO NOTHING`. -/
def Database.record (db : Database S) (id : String) (now : Nat) : Database S :=
  if id ∈ db.ids then db else { db with applied := db.applied ++ [{ id := id, appliedAt := now }] }

/-- `DELETE FROM schema_migrations WHERE id = …`. -/
def Database.unrecord (db : Database S) (id : String) : Database S :=
  { db with applied := db.applied.filter fun row => row.id ≠ id }

/-- `ORDER BY applied_at DESC, id DESC`. -/
def laterFirst (one other : Applied) : Prop :=
  other.appliedAt < one.appliedAt ∨ other.appliedAt = one.appliedAt ∧ other.id ≤ one.id

instance : DecidableRel laterFirst := fun _ _ => inferInstanceAs (Decidable (_ < _ ∨ _ = _ ∧ _ ≤ _))

/-- `getLastAppliedMigrations`. -/
def Database.lastApplied (db : Database S) (limit : Nat) : List String :=
  ((db.applied.insertionSort laterFirst).take limit).map Applied.id

/-- A run of either program, at the await it has reached. -/
inductive MigrationCall where
  /-- `ensureMigrationTable`; `destructive` is `ALLOW_DESTRUCTIVE_BASELINE`. -/
  | ensuringTable (destructive : Bool)
  /-- `bootstrapIfNeeded`, counting what is on record. -/
  | countingApplied (destructive : Bool)
  | lookingForOrders (destructive : Bool)
  | lookingForHubs (destructive hasOrders : Bool)
  | marking (destructive : Bool)
  | gettingApplied (destructive : Bool)
  /-- `applyMigration`, at its `BEGIN`; `todo` comes after it. -/
  | beginning (destructive : Bool) (id : String) (todo : List String)
  | migrating (destructive : Bool) (id : String) (todo : List String)
  | recording (destructive : Bool) (id : String) (todo : List String)
  | committing (destructive : Bool) (id : String) (todo : List String)
  /-- `seedHubs` and `seedAdmin`, which add rows and leave the schema. -/
  | seeding (destructive : Bool)
  /-- The run of `migrate.js` completed. -/
  | migrated (destructive : Bool)
  /-- `migrate-down.js`. -/
  | gettingLast (steps : Nat)
  /-- `rollbackOne`, at its `BEGIN`. -/
  | reverting (id : String) (todo : List String)
  | undoing (id : String) (todo : List String)
  | unrecording (id : String) (todo : List String)
  | committingDown (id : String) (todo : List String)
  | rolledBack
  /-- An error ended the run, or its process stopped; the transaction it was in is rolled back. -/
  | failed
  deriving DecidableEq

/-- What is run. -/
inductive MigrationEntry where
  | migrate (allowDestructiveBaseline : Bool)
  /-- `--steps`, where a number follows it. -/
  | migrateDown (steps : Option Int)
  deriving DecidableEq

/-- The answer to an await. -/
structure MigrationAnswer where
  fails : Bool := false
  /-- `NOW()`, when the transaction began. -/
  now : Nat := 0
  deriving DecidableEq

/-- `parseSteps`. -/
def parseSteps (steps : Option Int) : Nat :=
  match steps with
  | some value => if 0 < value then value.toNat else 1
  | none => 1

/-- Where a run begins. -/
def MigrationEntry.start : MigrationEntry → MigrationCall
  | .migrate destructive => .ensuringTable destructive
  | .migrateDown steps => .gettingLast (parseSteps steps)

/-- What a step does to the database. -/
inductive MigrationStatement where
  | nothing
  | marked (now : Nat)
  /-- A transaction that ran a migration and recorded it. -/
  | applied (id : String) (now : Nat)
  /-- A transaction that ran the down file of a migration and struck it off. -/
  | reverted (id : String)

/-- A statement, and what it makes of the database. What fails leaves it as it is. -/
def MigrationStatement.execute (cfg : MigrationConfig S) (statement : MigrationStatement) (db : Database S) :
    Database S :=
  match statement with
  | .nothing => db
  | .marked now => baselineMigrations.foldl (fun db id => db.record id now) db
  -- The file and its row are written together, or neither is.
  | .applied id now =>
    match cfg.up id db.schema with
    | some schema => { db with schema := schema }.record id now
    | none => db
  | .reverted id =>
    match (cfg.down id).bind fun undo => undo db.schema with
    | some schema => { db with schema := schema }.unrecord id
    | none => db

/-- What there is to apply, given what is on record. -/
def pending (destructive : Bool) (ids : List String) : List String :=
  (migrations ++ if destructive then [legacyDestructiveMigration] else []).filter fun id => id ∉ ids

/-- The next transaction of a run, or the seeding behind the last. -/
def MigrationCall.upNext (destructive : Bool) : List String → MigrationCall
  | [] => .seeding destructive
  | id :: todo => .beginning destructive id todo

/-- The next rollback of a run, or its end. -/
def MigrationCall.downNext : List String → MigrationCall
  | [] => .rolledBack
  | id :: todo => .reverting id todo

/-- A run that has come to its end. -/
def MigrationCall.over : MigrationCall → Bool
  | .migrated _ | .rolledBack | .failed => true
  | _ => false

/-- What a run does next, and the await it gets to. -/
def MigrationCall.next (cfg : MigrationConfig S) (db : Database S) (answer : MigrationAnswer)
    (call : MigrationCall) : MigrationStatement × MigrationCall :=
  if call.over then (.nothing, call)
  else if answer.fails then (.nothing, .failed)
  else match call with
    | .ensuringTable destructive => (.nothing, .countingApplied destructive)
    | .countingApplied destructive =>
      (.nothing, if db.applied.length > 0 then .gettingApplied destructive else .lookingForOrders destructive)
    | .lookingForOrders destructive => (.nothing, .lookingForHubs destructive (cfg.tableExists db.schema "orders"))
    | .lookingForHubs destructive hasOrders =>
      (.nothing, if hasOrders && cfg.tableExists db.schema "hubs" then .marking destructive
        else .gettingApplied destructive)
    | .marking destructive => (.marked answer.now, .gettingApplied destructive)
    | .gettingApplied destructive => (.nothing, .upNext destructive (pending destructive db.ids))
    | .beginning destructive id todo => (.nothing, .migrating destructive id todo)
    -- What the file does is seen by nobody before the commit, and what it touches is locked until then.
    | .migrating destructive id todo =>
      (.nothing, if (cfg.up id db.schema).isNone then .failed else .recording destructive id todo)
    | .recording destructive id todo => (.nothing, .committing destructive id todo)
    | .committing destructive id todo => (.applied id answer.now, .upNext destructive todo)
    | .seeding destructive => (.nothing, .migrated destructive)
    | .gettingLast steps => (.nothing, .downNext (db.lastApplied steps))
    -- Without a down file it stops here.
    | .reverting id todo => (.nothing, if (cfg.down id).isNone then .failed else .undoing id todo)
    | .undoing id todo =>
      (.nothing, if ((cfg.down id).bind fun undo => undo db.schema).isNone then .failed else .unrecording id todo)
    | .unrecording id todo => (.nothing, .committingDown id todo)
    | .committingDown id todo => (.reverted id, .downNext todo)
    | .migrated _ | .rolledBack | .failed => (.nothing, call)

end Model

end Freight.Deploy
