import Freight.Safety.Raised

/-! Whether each failed check on record has its defect. -/

namespace Freight.Safety

open Incidents Dispatch

/-- A defect of a check that failed, raised on its day or later. -/
def Reported (store : SafetyStore) (username : String) (date : Nat) (key : ItemKey) : Prop :=
  ∃ defect ∈ store.defects, defect.driverName = username ∧
    (∃ note, defect.description = defectDescription key note) ∧ date ≤ dayOf defect.createdAt

/-- Whose failed check it is about to raise the defect of. -/
def ChecklistCall.raises : ChecklistCall → Option (String × ItemKey)
  | .raising answer _ => some (answer.username, answer.key)
  | _ => none

/-- The condition on an event: a call that is to raise a defect is neither stopped before nor fails at it. -/
def SeesThrough (pool : Pool SafetyStore ChecklistCall) : PoolEvent ChecklistEntry StoreAnswer SafetyEvent → Prop
  | .run index back => ∀ call ∈ pool.calls[index]?, call.raises ≠ none → back.works = true
  | .stop index => ∀ call ∈ pool.calls[index]?, call.raises = none
  | _ => True

/-- Each failed check on record has its defect, or is about to. -/
structure Answered (store : SafetyStore) (calls : List ChecklistCall) : Prop where
  dated : ∀ row ∈ store.checklists.rows, row.checklistDate ≤ store.today
  raised : ∀ row ∈ store.checklists.rows, ∀ key, row.items key = some (.result .fail) →
    Reported store row.driverUsername row.checklistDate key ∨
      ∃ call ∈ calls, call.raises = some (row.driverUsername, key)

section Steps

variable {store later : SafetyStore} {calls calls' others : List ChecklistCall} {call next : ChecklistCall}
  {username : String} {date : Nat} {key : ItemKey}

/-- A defect that was reported stays reported. -/
theorem Reported.grown (reported : Reported store username date key) (grown : Grown store later) :
    Reported later username date key := by
  -- It is still there, with its vehicle or without.
  obtain ⟨defect, member, own, what, timely⟩ := reported
  obtain ⟨gone, more, becomes, -⟩ := grown
  exact ⟨defect.without gone, mem_grown member becomes, own, what, timely⟩

/-- Where no check is answered and no defect is lost sight of, nothing is left out. -/
theorem Answered.onward (answered : Answered store calls) (grown : Grown store later)
    (time : store.now ≤ later.now)
    (rows : ∀ row ∈ later.checklists.rows, ∃ before ∈ store.checklists.rows, before.items = row.items ∧
      before.driverUsername = row.driverUsername ∧ before.checklistDate = row.checklistDate)
    (carried : ∀ call ∈ calls, call.raises ≠ none → call ∈ calls') : Answered later calls' := by
  constructor
  · intro row member
    obtain ⟨before, there, -, -, date⟩ := rows row member
    rw [← date]
    exact (answered.dated before there).trans (Nat.div_le_div_right time)
  · intro row member key failed
    obtain ⟨before, there, items, driver, date⟩ := rows row member
    rw [← driver, ← date]
    rw [← items] at failed
    rcases answered.raised before there key failed with reported | ⟨call, among, raising⟩
    -- The defect is on record still, or the call is still to raise it.
    · exact .inl (reported.grown grown)
    · refine .inr ⟨call, carried call among ?_, raising⟩
      rw [raising]
      exact Option.some_ne_none _

/-- So too where no row of a checklist is written. -/
theorem Answered.unwritten (answered : Answered store calls) (grown : Grown store later)
    (time : store.now ≤ later.now) (same : later.checklists = store.checklists)
    (carried : ∀ call ∈ calls, call.raises ≠ none → call ∈ calls') : Answered later calls' :=
  answered.onward grown time (fun row member => ⟨row, same ▸ member, rfl, rfl, rfl⟩) carried

/-- A call that was raising nothing, and writes nothing, leaves nothing out. -/
theorem Answered.quiet (answered : Answered store (call :: others)) (idle : call.raises = none) :
    Answered store (next :: others) := by
  -- It was answering for no item, so whoever answers for one is another.
  refine answered.unwritten (Grown.of_same rfl) le_rfl rfl fun other member raising => ?_
  rcases List.mem_cons.mp member with rfl | among
  · exact absurd idle raising
  · exact List.mem_cons_of_mem _ among

/-- A row of the checklists once an answer is merged: one from before, or the day's own of the driver. -/
theorem mem_merge {answer : ItemAnswer} {vehicleId : Option Nat} {row : Checklist}
    (member : row ∈ ((ChecklistStatement.merge answer vehicleId).execute store).checklists.rows) :
    row ∈ store.checklists.rows ∨ row.driverUsername = answer.username ∧ row.checklistDate = store.today ∧
      ∃ items, row.items = merged items answer.key answer.result ∧ ∀ key value, items key = some value →
        ∃ before ∈ store.checklists.rows, before.driverUsername = row.driverUsername ∧
          before.checklistDate = row.checklistDate ∧ before.items = items := by
  have under := Table.find?_eq_some.mpr ⟨member, rfl⟩
  simp only [ChecklistStatement.execute, Table.find?_upsert] at under
  by_cases own : (row.driverUsername, row.checklistDate) = (answer.username, store.today)
  -- The row is the one the statement writes, or it was there before.
  · rw [if_pos own] at under
    obtain ⟨driver, today⟩ := Prod.mk.inj own
    refine .inr ⟨driver, today, ?_⟩
    cases there : store.checklists.find? (row.driverUsername, row.checklistDate) with
    | none =>
      -- The day's row is a new one, with this answer alone.
      rw [there] at under
      obtain rfl := Option.some.inj under
      exact ⟨fun _ => none, rfl, fun _ _ answered => absurd answered.symm (Option.some_ne_none _)⟩
    | some before =>
      rw [there] at under
      obtain ⟨listed, same⟩ := Table.find?_eq_some.mp there
      obtain ⟨driver, date⟩ := Prod.mk.inj same
      refine ⟨before.items, ?_, fun _ _ _ => ⟨before, listed, driver, date, rfl⟩⟩
      exact (congrArg Checklist.items (Option.some.inj under)).symm
  · rw [if_neg own] at under
    exact .inl (Table.find?_eq_some.mp under).1

/-- An answer is written down, and one that fails is to be raised next. -/
theorem Answered.merges {answer : ItemAnswer} {vehicleId : Option Nat}
    (answered : Answered store (.merging answer vehicleId :: others)) :
    Answered ((ChecklistStatement.merge answer vehicleId).execute store)
      ((if answer.result = .fail then .raising answer vehicleId else .answered) :: others) := by
  constructor
  · intro row member
    rcases mem_merge member with before | ⟨-, today, -⟩
    · exact answered.dated row before
    · exact today.le
  · intro row member key failed
    -- What failed before has its defect, or another call is about to raise it.
    have earlier : ∀ before ∈ store.checklists.rows, before.driverUsername = row.driverUsername →
        before.checklistDate = row.checklistDate → before.items key = some (.result .fail) →
        Reported store row.driverUsername row.checklistDate key ∨
          ∃ call ∈ others, call.raises = some (row.driverUsername, key) := by
      intro before there driver date failed
      rw [← driver, ← date]
      rcases answered.raised before there key failed with reported | ⟨call, among, raising⟩
      · exact .inl reported
      · rcases List.mem_cons.mp among with rfl | other
        · cases raising
        · exact .inr ⟨call, other, raising⟩
    have settles : Reported store row.driverUsername row.checklistDate key ∨
        (∃ call ∈ others, call.raises = some (row.driverUsername, key)) ∨
          answer.result = .fail ∧ row.driverUsername = answer.username ∧ key = answer.key := by
      rcases mem_merge member with before | ⟨driver, -, items, becomes, from_before⟩
      · exact (earlier row before rfl rfl failed).imp_right .inl
      · rw [becomes] at failed
        unfold merged at failed
        by_cases own : key = answer.key
        -- This answer is the one that failed, or an item it leaves alone is.
        · subst own
          rw [Function.update_self] at failed
          exact .inr (.inr ⟨StoredItem.result.inj (Option.some.inj failed), driver, rfl⟩)
        · rw [Function.update_of_ne own] at failed
          obtain ⟨before, there, driver, date, same⟩ := from_before key _ failed
          rw [← same] at failed
          exact (earlier before there driver date failed).imp_right .inl
    rcases settles with reported | ⟨call, among, raising⟩ | ⟨failing, driver, rfl⟩
    · exact .inl (reported.grown (grown_execute (.merge answer vehicleId) store))
    · exact .inr ⟨call, List.mem_cons_of_mem _ among, raising⟩
    · refine .inr ⟨_, List.mem_cons_self, ?_⟩
      rw [if_pos failing, driver]
      rfl

/-- The defect of a failed check is raised. -/
theorem Answered.raises {answer : ItemAnswer} {vehicleId : Option Nat}
    (answered : Answered store (.raising answer vehicleId :: others)) :
    Answered ((ChecklistStatement.raise answer vehicleId).execute store) (.answered :: others) := by
  have grown := grown_execute (.raise answer vehicleId) store
  refine ⟨answered.dated, fun row member key failed => ?_⟩
  rcases answered.raised row member key failed with reported | ⟨call, among, raising⟩
  · exact .inl (reported.grown grown)
  · rcases List.mem_cons.mp among with rfl | other
    · -- This is the one that was to raise it, on the row's day or later.
      obtain ⟨driver, rfl⟩ := Prod.mk.inj (Option.some.inj raising)
      refine .inl ⟨answer.defect vehicleId store.now store.alerts.nextSerial, ?_, driver, ⟨answer.note, rfl⟩,
        answered.dated row member⟩
      exact List.mem_filter.mpr ⟨List.mem_append_right _ (List.mem_singleton_self _), decide_eq_true rfl⟩
    · exact .inr ⟨call, List.mem_cons_of_mem _ other, raising⟩

/-- Whatever happens outside the calls, no row is answered otherwise. -/
theorem Answered.happens (answered : Answered store calls) (event : SafetyEvent) :
    Answered (event.happens store) calls := by
  -- A deletion empties a row's vehicle, time passes, and an update of incidents is of no checklist.
  have grown := grown_happens event store
  cases event with
  | vehicleDeleted vehicleId =>
    refine answered.onward grown le_rfl (fun row member => ?_) fun _ among _ => among
    obtain ⟨before, there, rfl⟩ := List.mem_map.mp member
    refine ⟨before, there, ?_⟩
    split <;> exact ⟨rfl, rfl, rfl⟩
  | later elapsed =>
    exact answered.unwritten grown (Nat.le_add_right _ _) rfl fun _ among _ => among
  | createIncident | updateIncidentStatus | finalizeIncidentAnalysis | telemetryAlert | elsewhere =>
    exact answered.unwritten grown le_rfl rfl fun _ among _ => among

/-- A step of a call leaves nothing out, under the condition on it. -/
theorem Answered.proceeds (answered : Answered store (call :: others)) (back : StoreAnswer)
    (through : call.raises ≠ none → back.works = true) :
    Answered ((call.next store back).1.execute store) ((call.next store back).2 :: others) := by
  -- Each state of a call: it reads, merges the answers, or raises what it found.
  cases call with
  | findingVehicle answer =>
    simp only [ChecklistCall.next]
    split <;> exact answered.quiet rfl
  | merging answer vehicleId =>
    simp only [ChecklistCall.next]
    split
    · exact answered.merges
    · exact answered.quiet rfl
  | raising answer vehicleId =>
    simp only [ChecklistCall.next, through (Option.some_ne_none _), if_true]
    exact answered.raises
  | answered => exact answered.quiet rfl
  | refused failure => exact answered.quiet rfl
  | stopped => exact answered.quiet rfl

end Steps

/-- Events that see defects through leave no failed check without one. -/
theorem answered_keeps : safetySystem.Keeps Answered SeesThrough where
  perm same answered := by
    refine ⟨answered.dated, fun row member key failed => ?_⟩
    refine (answered.raised row member key failed).imp_right fun raising => ?_
    obtain ⟨call, among, raises⟩ := raising
    exact ⟨call, same.mem_iff.mp among, raises⟩
  moves := by
    -- A step is seen through when its statement works.
    intro pool index back call others taken answered through
    exact answered.proceeds back (through call taken.found)
  arrives := by
    intro pool entry answered _
    exact answered.unwritten (Grown.of_same rfl) le_rfl rfl fun _ among _ => List.mem_cons_of_mem _ among
  stops := by
    intro pool index call others found answered through
    exact answered.quiet (through call found)
  happens := by
    intro pool event answered _ _
    exact answered.happens event

/--
While no call that is to raise a defect is cut off before it has, every failed check on record has a defect, of
its driver, its item and its day or later, or one that is about to be raised.
-/
theorem failures_reported (pool : Pool SafetyStore ChecklistCall) (answered : Answered pool.shared pool.calls)
    (events : List (PoolEvent ChecklistEntry StoreAnswer SafetyEvent))
    (through : Along safetySystem.step SeesThrough pool events) :
    Throughout safetySystem.step (fun pool => Answered pool.shared pool.calls) pool events :=
  answered_keeps.throughout answered through

/-- A driver on no vehicle finds a tyre worn. -/
def wornTyre : ChecklistEntry where
  username := "driver"
  body := { itemKey := some .tyres, result := some (some .fail), note := some "worn" }

/-- The driver has an account, and nothing has been checked yet. -/
def oneDriver : SafetyStore where
  users := ⟨[{ id := 4, username := "driver", role := .driver }], List.nodup_singleton _⟩

/-- A failed check that is seen through, and the defect it leaves. -/
theorem failures_reported_wornTyre :
    Throughout safetySystem.step (fun pool => Answered pool.shared pool.calls) ⟨oneDriver, []⟩
        [.call wornTyre, .run 0 {}, .run 0 {}, .run 0 {}] ∧
      (run safetySystem.step ⟨oneDriver, []⟩
        [.call wornTyre, .run 0 {}, .run 0 {}, .run 0 {}]).shared.defects.length = 1 := by
  refine ⟨failures_reported ⟨oneDriver, []⟩ ⟨?_, ?_⟩ _ ⟨trivial, ?_, ?_, ?_, trivial⟩, by decide⟩
  -- No check and no defect is on record to begin with.
  · exact fun row none => absurd none List.not_mem_nil
  · exact fun row none => absurd none List.not_mem_nil
  -- And every statement gets through.
  all_goals exact fun _ _ _ => rfl

/-- Cut off behind the first write, the check has failed on record and no defect says so. -/
example :
    let left := (run safetySystem.step ⟨oneDriver, []⟩ [.call wornTyre, .run 0 {}, .run 0 {}, .stop 0]).shared
    (left.checklists.rows.map fun row => row.items .tyres) = [some (.result .fail)] ∧ left.defects = [] := by
  decide

end Freight.Safety
