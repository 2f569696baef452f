import Freight.Telemetry.Fixes
import Freight.Library.Run

/-! Whether the alerts about a driver come in matching pairs, whatever they report and whatever fails. -/

namespace Freight.Telemetry

open Dispatch (Point)

variable {metres : Point → Point → ℚ} {driverName : String} {failing : Option Await} {answers : Answers}
  {item : TelemetryItem} {track : Tracking}

/-- An alert, as a visit to its zone. -/
def GeofenceAlert.visit (alert : GeofenceAlert) : Visit String ViolationType :=
  match alert.eventType with
  | .violation type => .enter alert.description.zone type
  | .zoneExit => .leave alert.description.zone

/-- The alerts about the driver, as visits. -/
def Tracking.visits (track : Tracking) : List (Visit String ViolationType) :=
  track.alerts.map GeofenceAlert.visit

/-- A driver, and what the latest fix to be processed said: the zone it lay in, and how. -/
structure Tracked where
  track : Tracking := {}
  latest : Option (String × ViolationType) := none

/-- An item, with what its processing is answered and what fails. -/
structure Processing where
  item : TelemetryItem
  answers : Answers
  failing : Option Await := none

/-- The zones are looked at. -/
def reaches (failing : Option Await) : Bool :=
  match failing with
  | some .insertHistory | some .selectFix | some .upsertFix | some .selectZone | some .readBreach => false
  | _ => true

/-- An alert that is called for is recorded. -/
def records (failing : Option Await) : Bool :=
  match failing with
  | some .writeBreach | some .selectOrder | some .insertAlert => false
  | _ => true

/-- What a fix says, by the zone it lies in. -/
def Processing.says (event : Processing) : Option (String × ViolationType) :=
  event.answers.activeZone.map fun zone => (zone.name, violationType zone event.item.currentVelocityKmh)

/-- One item is processed. -/
def Tracked.step (metres : Point → Point → ℚ) (driverName : String) (tracked : Tracked)
    (event : Processing) : Tracked where
  track := processTelemetryItem metres driverName event.failing event.answers event.item tracked.track
  latest := if reaches event.failing then event.says else tracked.latest

/-- The alerts come in pairs, and where the latest fix lies is on record. -/
structure AlertsMatch (tracked : Tracked) : Prop where
  matched : Visit.Matched tracked.track.visits
  onRecord : ∀ zone type, tracked.latest = some (zone, type) →
    Visit.OpenAs tracked.track.visits zone type

/-- What the description of a violation is about. -/
theorem violationDescription_zone (zone : Geofence) (velocity : Option ℚ) :
    (violationDescription zone velocity).zone = zone.name := by
  -- Every wording names the zone.
  unfold violationDescription
  repeat' split
  all_goals rfl

/-- Nothing is changed about breaches and alerts. -/
structure Alike (one other : Tracking) : Prop where
  breach : one.breach = other.breach
  visits : one.visits = other.visits

/-- Recording the fix leaves breaches and alerts alone. -/
theorem recordFix_alike : Alike (recordFix metres failing item track).1 track := by
  -- Wherever it stops, it has written the fix and its place on the map at most.
  unfold recordFix
  repeat' split
  all_goals exact ⟨rfl, rfl⟩

/-- The zones are looked at once the fix has been recorded. -/
theorem recordFix_isSome : (recordFix metres failing item track).2.isSome = reaches failing := by
  -- What may fail before the zones is what `reaches` lists.
  unfold recordFix
  cases failing with
  | none => rfl
  | some await => cases await <;> rfl

/-- Asking for the vehicle leaves breaches and alerts alone. -/
theorem vehicleTypeForDriver_alike {vehicleType : Option String} {later : Tracking}
    (told : vehicleTypeForDriver failing answers track = some (vehicleType, later)) :
    Alike later track := by
  -- It may fill the cache of the types.
  unfold vehicleTypeForDriver at told
  repeat' split at told
  all_goals cases told
  all_goals exact ⟨rfl, rfl⟩

/-- So does telling the live map. -/
theorem publishState_alike {shown : Point} : Alike (publishState failing answers item shown track) track := by
  -- Past the vehicle's type it writes the live map.
  unfold publishState
  split
  · exact ⟨rfl, rfl⟩
  · rename_i vehicleType later told
    have alike := vehicleTypeForDriver_alike told
    split
    · exact alike
    · exact ⟨alike.breach, alike.visits⟩

/-- An item that does not get to the zones leaves breaches and alerts alone. -/
theorem process_alike (reached : reaches failing = false) :
    Alike (processTelemetryItem metres driverName failing answers item track) track := by
  -- It stops at the fix or after the live map.
  have stops := @recordFix_isSome metres failing item track
  have alike := @recordFix_alike metres failing item track
  rw [reached] at stops
  unfold processTelemetryItem
  match recorded : recordFix metres failing item track with
  | (later, none) =>
    rw [recorded] at alike
    exact alike
  | (later, some shown) =>
    rw [recorded] at stops
    cases stops

/-- What an item that gets there makes of them, the zones make of them. -/
theorem process_zones (reached : reaches failing = true) :
    ∃ recorded : Tracking, Alike recorded track ∧
      Alike (processTelemetryItem metres driverName failing answers item track)
        (checkZones driverName failing answers item recorded).1 := by
  have goes := @recordFix_isSome metres failing item track
  have alike := @recordFix_alike metres failing item track
  rw [reached] at goes
  unfold processTelemetryItem
  match recorded : recordFix metres failing item track with
  | (later, none) =>
    rw [recorded] at goes
    cases goes
  | (later, some shown) =>
    rw [recorded] at alike
    refine ⟨later, alike, ?_⟩
    -- Whether or not the fix is published afterwards, the zones have been checked by then.
    match checked : checkZones driverName failing answers item later with
    | (after, false) =>
      simp only [checked]
      exact ⟨rfl, rfl⟩
    | (after, true) =>
      simp only [checked]
      exact publishState_alike

/-- An alert that is recorded is entered at the end. -/
theorem recordAlert_visits {eventType : AlertType} {description : Description}
    (through : failing ≠ some .selectOrder ∧ failing ≠ some .insertAlert) :
    (recordAlert failing answers eventType description track).1.visits =
      track.visits ++ [GeofenceAlert.visit ⟨answers.activeOrder, eventType, description⟩] := by
  -- Neither of its two statements fails, so the INSERT is made.
  unfold recordAlert
  rw [if_neg (by rintro (select | insert); exacts [through.1 select, through.2 insert])]
  simp [Tracking.visits]

/-- One that is not leaves everything as it is. -/
theorem recordAlert_fails {eventType : AlertType} {description : Description}
    (fails : failing = some .selectOrder ∨ failing = some .insertAlert) :
    recordAlert failing answers eventType description track = (track, false) := if_pos fails

/-- Recording an alert leaves the breach alone. -/
theorem recordAlert_breach {eventType : AlertType} {description : Description} :
    (recordAlert failing answers eventType description track).1.breach = track.breach := by
  -- It writes an alert, or nothing.
  unfold recordAlert
  split <;> rfl

/-- What is recorded is neither held up by the hash nor by the alert's own statements. -/
theorem records_iff : records failing = true ↔
    failing ≠ some .writeBreach ∧ failing ≠ some .selectOrder ∧ failing ≠ some .insertAlert := by
  -- Await by await.
  cases failing with
  | none => simp [records]
  | some await => cases await <;> simp [records]

/-- A violation in progress is not recorded again. -/
theorem checkZones_ongoing {zone : Geofence} (inside : answers.activeZone = some zone)
    (same : ongoing track.breach zone (violationType zone item.currentVelocityKmh) = true) :
    checkZones driverName failing answers item track = (track, true) := by
  -- It is the first branch inside a zone.
  simp only [checkZones, inside, same, if_true]

/-- A new violation is recorded, and stands. -/
theorem checkZones_enters {zone : Geofence} (inside : answers.activeZone = some zone)
    (new : ongoing track.breach zone (violationType zone item.currentVelocityKmh) = false)
    (recorded : records failing = true) :
    (checkZones driverName failing answers item track).1.visits =
        track.visits ++ [.enter zone.name (violationType zone item.currentVelocityKmh)] ∧
      (checkZones driverName failing answers item track).1.breach =
        some ⟨zone.name, violationType zone item.currentVelocityKmh,
          violationDescription zone item.currentVelocityKmh⟩ := by
  obtain ⟨hash, through⟩ := records_iff.mp recorded
  simp only [checkZones, inside, new, Bool.false_eq_true, if_false, if_neg hash]
  refine ⟨?_, recordAlert_breach⟩
  -- The alert is inserted with the zone's name and the kind of violation.
  rw [recordAlert_visits through]
  simp only [GeofenceAlert.visit, violationDescription_zone]
  rfl

/-- Where its recording fails, at most the hash has changed. -/
theorem checkZones_unrecorded {zone : Geofence} (inside : answers.activeZone = some zone)
    (lost : records failing = false) :
    (checkZones driverName failing answers item track).1.visits = track.visits ∧
      ((checkZones driverName failing answers item track).1.breach = track.breach ∨
        ∃ description, (checkZones driverName failing answers item track).1.breach =
          some ⟨zone.name, violationType zone item.currentVelocityKmh, description⟩) := by
  simp only [checkZones, inside]
  split
  · exact ⟨rfl, .inl rfl⟩
  · split
    · exact ⟨rfl, .inl rfl⟩
    · rename_i hash
      -- The hash was written, so it is the recording itself that fails.
      have fails : failing = some .selectOrder ∨ failing = some .insertAlert := by
        by_contra through
        rw [not_or] at through
        rw [records_iff.mpr ⟨hash, through⟩] at lost
        cases lost
      rw [recordAlert_fails fails]
      exact ⟨rfl, .inr ⟨_, rfl⟩⟩

/-- Outside every zone, an exit is recorded where a violation stood. -/
theorem checkZones_outside (outside : answers.activeZone = none) :
    ((checkZones driverName failing answers item track).1.visits = track.visits ∧
        ((checkZones driverName failing answers item track).1.breach = track.breach ∨
          (checkZones driverName failing answers item track).1.breach = none)) ∨
      ∃ breach, track.breach = some breach ∧
        (checkZones driverName failing answers item track).1.visits =
          track.visits ++ [.leave breach.zoneName] ∧
        (checkZones driverName failing answers item track).1.breach = none := by
  simp only [checkZones, outside]
  cases stood : track.breach with
  | none => exact .inl ⟨rfl, .inl stood⟩
  | some breach =>
    simp only []
    split
    · exact .inl ⟨rfl, .inl stood⟩
    · -- The hash is deleted before the exit is recorded, so a failure loses the exit.
      by_cases fails : failing = some .selectOrder ∨ failing = some .insertAlert
      · rw [recordAlert_fails fails]
        exact .inl ⟨rfl, .inr rfl⟩
      · rw [not_or] at fails
        refine .inr ⟨breach, rfl, ?_, recordAlert_breach⟩
        rw [recordAlert_visits fails]
        rfl

/-- What keeps the alerts in order: a violation in the hash is open on record too. -/
structure Orderly (tracked : Tracked) : Prop extends AlertsMatch tracked where
  standing : ∀ breach, tracked.track.breach = some breach →
    Visit.OpenAs tracked.track.visits breach.zoneName breach.type

/--
A fix calls for a violation that can be recorded.

No violation of another zone is open any more, and the hash, the order and the INSERT go through, or one of
that zone and kind is open already.
-/
def Recordable (tracked : Tracked) (event : Processing) : Prop :=
  reaches event.failing = true → ∀ zone, event.answers.activeZone = some zone →
    ongoing tracked.track.breach zone (violationType zone event.item.currentVelocityKmh) = false →
      (records event.failing = true →
        ∀ other, Visit.Open tracked.track.visits other → other = zone.name) ∧
      (records event.failing = false →
        Visit.OpenAs tracked.track.visits zone.name (violationType zone event.item.currentVelocityKmh))

/-- The violation in progress is the one the hash names. -/
theorem ongoing_iff {breach : Option Breach} {zone : Geofence} {type : ViolationType} :
    ongoing breach zone type = true ↔
      ∃ stood, breach = some stood ∧ stood.zoneName = zone.name ∧ stood.type = type := by
  -- By whether the hash names one.
  cases breach with
  | none => simp [ongoing]
  | some stood => simp [ongoing]

/-- An item that does not get to the zones keeps the alerts in order. -/
theorem Orderly.unreached {tracked : Tracked} (orderly : Orderly tracked) {event : Processing}
    (reached : reaches event.failing = false) : Orderly (tracked.step metres driverName event) := by
  have alike := @process_alike metres driverName _ event.answers event.item tracked.track reached
  -- The zones were not looked at, so neither the hash nor the record changes.
  have latest : (tracked.step metres driverName event).latest = tracked.latest := by
    simp only [Tracked.step, reached, Bool.false_eq_true, if_false]
  have visits : (tracked.step metres driverName event).track.visits = tracked.track.visits := alike.visits
  refine ⟨⟨?_, ?_⟩, ?_⟩
  · rw [visits]
    exact orderly.matched
  · rw [visits, latest]
    exact orderly.onRecord
  · rw [visits]
    intro breach stands
    exact orderly.standing breach (alike.breach.symm.trans stands)

/-- An item in a zone keeps the alerts in order exactly when its violation can be recorded. -/
theorem Orderly.inside_iff {tracked : Tracked} (orderly : Orderly tracked) {event : Processing}
    (reached : reaches event.failing = true) {zone : Geofence}
    (inside : event.answers.activeZone = some zone) :
    (AlertsMatch (tracked.step metres driverName event) → Recordable tracked event) ∧
      (Recordable tracked event → Orderly (tracked.step metres driverName event)) := by
  obtain ⟨recorded, before, after⟩ :=
    @process_zones metres driverName _ event.answers event.item tracked.track reached
  have latest : (tracked.step metres driverName event).latest =
      some (zone.name, violationType zone event.item.currentVelocityKmh) := by
    simp only [Tracked.step, reached, if_true, Processing.says, inside, Option.map_some]
  have visits : (tracked.step metres driverName event).track.visits = _ := after.visits
  have breach : (tracked.step metres driverName event).track.breach = _ := after.breach
  cases stood : ongoing tracked.track.breach zone (violationType zone event.item.currentVelocityKmh) with
  | true =>
    -- The violation goes on: nothing is recorded, and nothing has to be.
    have goes := stood
    rw [← before.breach] at goes
    rw [checkZones_ongoing inside goes] at visits breach
    rw [before.visits] at visits
    rw [before.breach] at breach
    refine ⟨fun _ _ other named new => ?_, fun _ => ⟨⟨?_, ?_⟩, ?_⟩⟩
    · obtain rfl := Option.some.inj (inside.symm.trans named)
      rw [stood] at new
      cases new
    · rw [visits]
      exact orderly.matched
    · rw [visits, latest]
      rintro _ _ ⟨⟩
      obtain ⟨violation, held, place, kind⟩ := ongoing_iff.mp stood
      rw [← place, ← kind]
      exact orderly.standing violation held
    · rw [visits, breach]
      exact orderly.standing
  -- Nothing was going on here, so there is a violation to record.
  | false =>
    have new := stood
    rw [← before.breach] at new
    cases through : records event.failing with
    -- The INSERT goes through, so the violation is recorded now.
    | true =>
      obtain ⟨enters, stands⟩ := @checkZones_enters driverName _ _ _ _ zone inside new through
      rw [enters, before.visits] at visits
      rw [stands] at breach
      constructor
      -- What matches the track has this very violation recorded.
      · intro match_ _ other named _
        obtain rfl := Option.some.inj (inside.symm.trans named)
        have matched := match_.matched
        rw [visits] at matched
        exact ⟨fun _ => (Visit.matched_enter.mp matched).2, fun lost => absurd (through.symm.trans lost) (by decide)⟩
      · intro recordable
        have alone := (recordable reached zone inside stood).1 through
        refine ⟨⟨?_, ?_⟩, ?_⟩
        · rw [visits]
          exact Visit.matched_enter.mpr ⟨orderly.matched, alone⟩
        · rw [visits, latest]
          rintro _ _ ⟨⟩
          exact Visit.openAs_enter.mpr (.inl ⟨rfl, rfl⟩)
        · rw [visits, breach]
          rintro _ ⟨⟩
          exact Visit.openAs_enter.mpr (.inl ⟨rfl, rfl⟩)
    | false =>
      obtain ⟨stays, hash⟩ := @checkZones_unrecorded driverName _ _ event.item recorded zone inside through
      rw [stays, before.visits] at visits
      rw [before.breach] at hash
      constructor
      · intro match_ _ other named _
        obtain rfl := Option.some.inj (inside.symm.trans named)
        have onRecord := match_.onRecord _ _ latest
        rw [visits] at onRecord
        exact ⟨fun works => absurd (through.symm.trans works) (by decide), fun _ => onRecord⟩
      · intro recordable
        have already := (recordable reached zone inside stood).2 through
        refine ⟨⟨?_, ?_⟩, ?_⟩
        · rw [visits]
          exact orderly.matched
        · rw [visits, latest]
          rintro _ _ ⟨⟩
          exact already
        · rw [visits, breach]
          rcases hash with same | ⟨description, set⟩
          · rw [same]
            exact orderly.standing
          · rw [set]
            rintro _ ⟨⟩
            exact already

/-- An item outside every zone keeps the alerts in order. -/
theorem Orderly.outside {tracked : Tracked} (orderly : Orderly tracked) {event : Processing}
    (reached : reaches event.failing = true) (outside : event.answers.activeZone = none) :
    Orderly (tracked.step metres driverName event) := by
  obtain ⟨recorded, before, after⟩ :=
    @process_zones metres driverName _ event.answers event.item tracked.track reached
  have latest : (tracked.step metres driverName event).latest = none := by
    simp only [Tracked.step, reached, if_true, Processing.says, outside, Option.map_none]
  have visits : (tracked.step metres driverName event).track.visits = _ := after.visits
  have breach : (tracked.step metres driverName event).track.breach = _ := after.breach
  rcases @checkZones_outside driverName event.failing _ event.item recorded outside with
    ⟨stays, hash⟩ | ⟨stood, held, leaves, gone⟩
  · rw [stays, before.visits] at visits
    rw [before.breach] at hash
    refine ⟨⟨?_, ?_⟩, ?_⟩
    · rw [visits]
      exact orderly.matched
    · rw [latest]
      rintro _ _ ⟨⟩
    · rw [visits, breach]
      -- Nothing is recorded, and the hash stays or is deleted.
      rcases hash with same | gone
      · rw [same]
        exact orderly.standing
      · rw [gone]
        rintro _ ⟨⟩
  · -- What the hash named was open on record, so the exit matches it.
    rw [leaves, before.visits] at visits
    rw [before.breach] at held
    refine ⟨⟨?_, ?_⟩, ?_⟩
    · rw [visits]
      exact Visit.matched_leave.mpr ⟨orderly.matched, _, orderly.standing stood held⟩
    · rw [latest]
      rintro _ _ ⟨⟩
    · rw [breach, gone]
      rintro _ ⟨⟩

/-- One item keeps the alerts in order exactly when a violation it calls for can be recorded. -/
theorem Orderly.step_iff {tracked : Tracked} (orderly : Orderly tracked) (event : Processing) :
    (AlertsMatch (tracked.step metres driverName event) → Recordable tracked event) ∧
      (Recordable tracked event → Orderly (tracked.step metres driverName event)) := by
  -- It stops before the zones, is in none of them, or is in one.
  cases reached : reaches event.failing with
  | false =>
    exact ⟨fun _ gets => absurd (reached.symm.trans gets) (by decide), fun _ => orderly.unreached reached⟩
  | true =>
    cases inside : event.answers.activeZone with
    | none =>
      exact ⟨fun _ _ zone named => absurd (inside.symm.trans named) (Option.some_ne_none zone).symm,
        fun _ => orderly.outside reached inside⟩
    | some zone => exact orderly.inside_iff reached inside

/-- Nothing has been reported yet. -/
theorem orderly_start : Orderly {} where
  -- There is no alert, no fix and no breach.
  matched := Visit.matched_nil
  onRecord := fun _ _ none_ => by cases none_
  standing := fun _ none_ => by cases none_

/--
The alerts about a driver come in matching pairs throughout, with the latest fix on record, exactly where
every violation that is called for can be recorded.
-/
theorem alerts_match_iff (metres : Point → Point → ℚ) (driverName : String) (items : List Processing) :
    Throughout (Tracked.step metres driverName) AlertsMatch {} items ↔
      Along (Tracked.step metres driverName) Recordable {} items :=
  -- At the first item nothing has been recorded; one item then decides for one item.
  throughout_iff_of_invariant (fun _ orderly => orderly.toAlertsMatch)
    (fun _ event orderly => (orderly.step_iff event).1) (fun _ event orderly => (orderly.step_iff event).2)
    orderly_start

/-- A fix in a zone, or outside all of them. -/
def fixIn (zone : Option String) (failing : Option Await) : Processing where
  item := { position := ⟨0, 0⟩, timestamp := 0, currentVelocityKmh := none }
  answers := {
    activeZone := zone.map fun name => ⟨name, 60⟩, activeOrder := none, vehicleType := none, now := 0 }
  failing := failing

/-- From one zone straight into another: the first is never left. And an INSERT that fails leaves no trace. -/
theorem zone_never_left :
    ¬ Throughout (Tracked.step (fun _ _ => 0) "+250788000001") AlertsMatch {}
        [fixIn (some "Market") none, fixIn (some "Airport") none] ∧
      ¬ Throughout (Tracked.step (fun _ _ => 0) "+250788000001") AlertsMatch {}
        [fixIn (some "Market") (some .insertAlert)] := by
  constructor
  · intro throughout
    -- The record enters the second zone without having left the first.
    have left := throughout.last.matched.left_first [] "Market" .boundaryBreach [] "Airport"
      .boundaryBreach [] (by decide) (by decide)
    exact absurd left List.not_mem_nil
  · intro throughout
    obtain ⟨earlier, between, same, -⟩ := throughout.last.onRecord "Market" .boundaryBreach (by decide)
    -- The item was inside a zone, and nothing is on record.
    have none_ : (run (Tracked.step (fun _ _ => 0) "+250788000001") {}
        [fixIn (some "Market") (some .insertAlert)]).track.visits = [] := by decide
    rw [none_] at same
    simp at same

end Freight.Telemetry
