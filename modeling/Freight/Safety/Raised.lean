import Freight.Library.OrderBy
import Freight.Safety.Checklist

/-! What becomes of a failed check: the defect it raises, which nobody settles, and who is still shown it. -/

namespace Freight.Safety

open Incidents Dispatch

/-- Every defect on record. -/
def SafetyStore.defects (store : SafetyStore) : List Alert :=
  store.alerts.rows.filter fun alert => alert.eventType = .vehicleDefect

/-- An alert when some of the vehicles are gone. -/
def Alert.without (gone : Nat → Bool) (alert : Alert) : Alert :=
  { alert with vehicleId := alert.vehicleId.filter fun id => !gone id }

/-- What is on record later: the defects from before, without the vehicles that are gone, and new ones, open. -/
def Grown (earlier later : SafetyStore) : Prop :=
  ∃ gone more, later.defects = earlier.defects.map (Alert.without gone) ++ more ∧
    ∀ alert ∈ more, alert.status = .opened

section Grown

variable {one two three earlier later : SafetyStore}

/-- An alert that loses no vehicle is what it was. -/
theorem Alert.without_none (alert : Alert) : alert.without (fun _ => false) = alert := by
  -- The vehicle passes the filter, where there is one.
  have all : alert.vehicleId.filter (fun _ => true) = alert.vehicleId := by cases alert.vehicleId <;> rfl
  show { alert with vehicleId := alert.vehicleId.filter fun _ => true } = alert
  rw [all]

/-- One that loses some vehicles, and then others, loses both. -/
theorem Alert.without_without (gone more : Nat → Bool) (alert : Alert) :
    (alert.without gone).without more = alert.without fun id => gone id || more id := by
  -- One filter after the other is one filter.
  unfold Alert.without
  rw [Option.filter_filter]
  simp only [Bool.not_or]

/-- Nothing new is on record where nothing has changed. -/
theorem Grown.of_same (same : later.defects = earlier.defects) : Grown earlier later := by
  -- No vehicle is gone, and nothing is new.
  refine ⟨fun _ => false, [], ?_, fun _ none => absurd none List.not_mem_nil⟩
  rw [List.append_nil, same, funext Alert.without_none, List.map_id'']
  exact fun _ => rfl

/-- What has grown twice has grown. -/
theorem Grown.trans (first : Grown one two) (second : Grown two three) : Grown one three := by
  obtain ⟨gone, more, begun, opened⟩ := first
  obtain ⟨gone', more', becomes, opened'⟩ := second
  refine ⟨fun id => gone id || gone' id, more.map (Alert.without gone') ++ more', ?_, fun alert member => ?_⟩
  · rw [becomes, begun, List.map_append, List.map_map, List.append_assoc]
    congr 1
    -- What is gone at one time or the other is gone.
    exact List.map_congr_left fun alert _ => alert.without_without gone gone'
  · rcases List.mem_append.mp member with before | new
    · obtain ⟨other, among, rfl⟩ := List.mem_map.mp before
      exact opened other among
    · exact opened' alert new

/-- What was on record is on record later, without the vehicles that are gone. -/
theorem mem_grown {gone : Nat → Bool} {more : List Alert} {defect : Alert} (listed : defect ∈ earlier.defects)
    (becomes : later.defects = earlier.defects.map (Alert.without gone) ++ more) :
    defect.without gone ∈ later.defects := by
  -- The old come first.
  rw [becomes]
  exact List.mem_append_left _ (List.mem_map_of_mem listed)

/-- A new alert stands behind those on record. -/
theorem Grown.raised {alert : Alert} (behind : later.alerts.rows = earlier.alerts.rows ++ [alert])
    (opened : alert.status = .opened) : Grown earlier later := by
  -- It is one of the defects or not.
  refine ⟨fun _ => false, [alert].filter fun alert => alert.eventType = .vehicleDefect, ?_,
    fun other member => ?_⟩
  · unfold SafetyStore.defects
    rw [behind, List.filter_append, funext Alert.without_none, List.map_id'']
    exact fun _ => rfl
  · rw [List.mem_singleton.mp (List.mem_of_mem_filter member)]
    exact opened

/-- An update that leaves the kind of every alert alone updates the defects among them. -/
theorem defects_map {change : Alert → Alert} (changed : later.alerts.rows = earlier.alerts.rows.map change)
    (kind : ∀ alert, (change alert).eventType = alert.eventType) :
    later.defects = earlier.defects.map change := by
  -- The change keeps every alert among the defects, or out of them.
  unfold SafetyStore.defects
  rw [changed, List.filter_map]
  congr 1
  exact List.filter_congr fun alert _ => by rw [Function.comp_apply, kind]

/-- Nothing the office does to an incident touches a defect. -/
theorem Grown.incident (store : SafetyStore) (id : Nat) (change : Alert → Alert)
    (keeps : ∀ alert, (change alert).id = alert.id)
    (kind : ∀ alert, (change alert).eventType = alert.eventType) :
    Grown store (store.updateIncident id change keeps) := by
  apply Grown.of_same
  refine (@defects_map store _ _ rfl fun alert => ?_).trans ?_
  · split
    · exact kind alert
    · rfl
  · -- The update asks for an incident by hand, which no defect is.
    refine (List.map_congr_left fun alert member => ?_).trans (List.map_id _)
    have defect : alert.eventType = .vehicleDefect := of_decide_eq_true (List.mem_filter.mp member).2
    refine if_neg ?_
    simp [defect]

/-- Whatever else happens, the defects stay on record. -/
theorem grown_happens (event : SafetyEvent) (store : SafetyStore) : Grown store (event.happens store) := by
  cases event with
  | createIncident driverName description => exact .raised rfl rfl
  | updateIncidentStatus id status reviewer => exact .incident _ _ _ _ fun _ => rfl
  | finalizeIncidentAnalysis id description severity => exact .incident _ _ _ _ fun _ => rfl
  | telemetryAlert driverName name description => exact .raised rfl rfl
  | elsewhere users vehicles => exact .of_same rfl
  | vehicleDeleted vehicleId =>
    refine ⟨fun id => id = vehicleId, [], ?_, fun _ none => absurd none List.not_mem_nil⟩
    rw [List.append_nil]
    refine defects_map (List.map_congr_left fun alert _ => ?_) fun _ => rfl
    -- What names the vehicle forgets it, and what names another keeps it.
    unfold Alert.without
    by_cases named : alert.vehicleId = some vehicleId
    · have forgotten : (some vehicleId).filter (fun id => !decide (id = vehicleId)) = none := if_neg (by simp)
      rw [if_pos (decide_eq_true named), named, forgotten]
    · have kept : alert.vehicleId.filter (fun id => !decide (id = vehicleId)) = alert.vehicleId := by
        cases other : alert.vehicleId with
        | none => rfl
        | some id => exact if_pos (by simpa [other] using named)
      rw [if_neg (by simpa using named), kept]
  | later elapsed => exact .of_same rfl

/-- So they do whatever a call of the checklist writes. -/
theorem grown_execute (statement : ChecklistStatement) (store : SafetyStore) :
    Grown store (statement.execute store) := by
  -- Of the three statements only one writes an alert, and that one adds it.
  cases statement with
  | unseen => exact .of_same rfl
  | merge answer vehicleId => exact .of_same rfl
  | raise answer vehicleId => exact .raised rfl rfl

/-- The defects on record only grow. -/
theorem grown_keeps (first : SafetyStore) :
    safetySystem.Keeps (fun store _ => Grown first store) fun _ _ => True where
  -- Every statement and every event grows the table, or leaves it.
  perm _ grown := grown
  moves _ grown _ := grown.trans (grown_execute _ _)
  arrives grown _ := grown
  stops _ grown _ := grown
  happens grown _ _ := grown.trans (grown_happens _ _)

/-- Run after run, nothing is taken off the record. -/
theorem grown_throughout (pool : Pool SafetyStore ChecklistCall)
    (events : List (PoolEvent ChecklistEntry StoreAnswer SafetyEvent)) :
    Throughout safetySystem.step (fun later => Grown pool.shared later.shared) pool events :=
  (grown_keeps pool.shared).throughout (Grown.of_same rfl) (along_of_forall (fun _ _ => trivial) pool events)

end Grown

/--
A defect is on record for ever with the status it had, whatever anybody does, and a new one is open.

Nothing settles one: the office's updates are of incidents reported by hand alone.
-/
theorem defects_stay_open (pool : Pool SafetyStore ChecklistCall)
    (events : List (PoolEvent ChecklistEntry StoreAnswer SafetyEvent)) :
    Throughout safetySystem.step (fun later =>
      (∀ defect ∈ pool.shared.defects, ∃ kept ∈ later.shared.defects, kept.id = defect.id ∧
        kept.status = defect.status ∧ kept.driverName = defect.driverName ∧ kept.description = defect.description) ∧
      ∀ defect ∈ later.shared.defects, defect.status = .opened ∨
        ∃ before ∈ pool.shared.defects, before.id = defect.id ∧ before.status = defect.status) pool events := by
  -- What has grown holds the old defects, changed in their vehicle at most, and open ones behind them.
  refine (grown_throughout pool events).mono fun later grown => ?_
  obtain ⟨gone, more, becomes, opened⟩ := grown
  constructor
  · intro defect member
    exact ⟨defect.without gone, mem_grown member becomes, rfl, rfl, rfl, rfl⟩
  · intro defect member
    rw [becomes] at member
    rcases List.mem_append.mp member with kept | new
    · obtain ⟨before, there, rfl⟩ := List.mem_map.mp kept
      exact .inr ⟨before, there, rfl, rfl⟩
    · exact .inl (opened defect new)

/-- Newer, open, and of the same vehicle. -/
def Alert.behind (defect newer : Alert) : Bool :=
  newer.status = .opened && newer.vehicleId = defect.vehicleId && defect.createdAt < newer.createdAt

section Shown

variable {store earlier later : SafetyStore} {username : String} {defect shown : Alert}

/-- What a driver is shown is on record, and of a vehicle of theirs. -/
theorem shown_concerns (member : shown ∈ getOpenVehicleDefects store username) :
    shown ∈ store.alerts.rows ∧ store.concerns username shown = true :=
  List.mem_filter.mp ((List.perm_insertionSort _ _).mem_iff.mp (List.mem_of_mem_take member))

/-- Fewer than twenty that a driver could be shown are newer than any they are. -/
theorem few_newer (member : shown ∈ getOpenVehicleDefects store username) :
    store.alerts.rows.countP (fun alert => store.concerns username alert && shown.createdAt < alert.createdAt) <
      shownDefects := by
  have sorted := List.pairwise_insertionSort (fun one other : Alert => other.createdAt ≤ one.createdAt)
    (store.alerts.rows.filter (store.concerns username))
  have fewer := countP_lt_of_mem_take Alert.createdAt sorted member
  -- Sorting changes no count, and what is counted among the listed is counted among all.
  rw [(List.perm_insertionSort _ _).countP_eq, List.countP_filter] at fewer
  exact lt_of_eq_of_lt (List.countP_congr fun alert _ => by rw [Bool.and_comm]) fewer

/-- A defect with twenty newer ones of its vehicle is not shown. -/
theorem buried_not_shown (buried : shownDefects ≤ store.defects.countP defect.behind) :
    defect ∉ getOpenVehicleDefects store username := by
  intro member
  obtain ⟨-, concerned⟩ := shown_concerns member
  refine absurd (few_newer member) (Nat.not_lt.mpr (buried.trans ?_))
  unfold SafetyStore.defects
  rw [List.countP_filter]
  refine List.countP_mono_left fun alert _ newer => ?_
  -- What is of the same vehicle concerns the same drivers.
  simp only [Alert.behind, SafetyStore.concerns, Bool.and_eq_true, decide_eq_true_eq] at newer concerned ⊢
  obtain ⟨⟨⟨opened, vehicle⟩, later⟩, kind⟩ := newer
  exact ⟨⟨⟨kind, opened⟩, vehicle ▸ concerned.2⟩, later⟩

/-- Those that are newer stay so. -/
theorem behind_grows {gone : Nat → Bool} {more : List Alert}
    (becomes : later.defects = earlier.defects.map (Alert.without gone) ++ more) :
    earlier.defects.countP defect.behind ≤ later.defects.countP (defect.without gone).behind := by
  rw [becomes, List.countP_append, List.countP_map]
  -- The vehicle is forgotten by both or by neither.
  refine le_trans (List.countP_mono_left fun alert _ newer => ?_) (Nat.le_add_right _ _)
  simp only [Alert.behind, Bool.and_eq_true, decide_eq_true_eq] at newer
  obtain ⟨⟨opened, vehicle⟩, later⟩ := newer
  simp only [Function.comp_apply, Alert.behind, Alert.without, opened, vehicle, later, decide_true, Bool.and_self]

end Shown

/-- Once twenty newer defects of its vehicle are open, no driver is ever shown a defect again. -/
theorem defect_out_of_sight (pool : Pool SafetyStore ChecklistCall) (defect : Alert)
    (listed : defect ∈ pool.shared.defects)
    (buried : shownDefects ≤ pool.shared.defects.countP defect.behind)
    (events : List (PoolEvent ChecklistEntry StoreAnswer SafetyEvent)) :
    Throughout safetySystem.step (fun later => ∀ username,
      ∀ shown ∈ getOpenVehicleDefects later.shared username, shown.id ≠ defect.id) pool events := by
  refine (grown_throughout pool events).mono fun later grown username shown member same => ?_
  obtain ⟨gone, more, becomes, -⟩ := grown
  have kept := mem_grown listed becomes
  -- There is one row under its id.
  have own : shown = defect.without gone :=
    later.shared.alerts.same_row (shown_concerns member).1 (List.mem_of_mem_filter kept) same
  rw [own] at member
  exact buried_not_shown (buried.trans (behind_grows becomes)) member

/-- One vehicle, its driver, and twenty-one open defects, one a day. -/
def wornOut : SafetyStore where
  alerts.rows := (List.range 21).map fun id =>
    { id, driverName := "driver", eventType := .vehicleDefect, vehicleId := some 9, createdAt := id * 86400
      description := defectDescription .tyres none }
  alerts.unique := by decide
  users := ⟨[{ id := 4, username := "driver", role := .driver }], by decide⟩
  vehicles := ⟨[{ id := 9, currentDriverId := some 4 }], by decide⟩
  now := 20 * 86400

/-- The first of twenty-one defects is not shown, whichever of them the office tries to resolve. -/
theorem defect_out_of_sight_wornOut : Throughout safetySystem.step (fun later => ∀ username,
    ∀ shown ∈ getOpenVehicleDefects later.shared username, shown.id ≠ 0) ⟨wornOut, []⟩
      [.outside (.updateIncidentStatus 5 .resolved "admin"), .outside (.later 86400)] :=
  defect_out_of_sight ⟨wornOut, []⟩
    { id := 0, driverName := "driver", eventType := .vehicleDefect, vehicleId := some 9, createdAt := 0
      description := defectDescription .tyres none } (by decide) (by decide) _

end Freight.Safety
