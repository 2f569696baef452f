import Freight.Safety.Checklist

/-! What a driver is shown of the day's checklist, in an old app and in a new one. -/

namespace Freight.Safety

/-- What `toResults` makes of one value: a tick is a pass, and no tick says nothing. -/
def StoredItem.toResult : StoredItem → ItemResult
  | .result value => value
  | .ticked true => .pass
  | .ticked false | .other => .unchecked

/-- `toResults`. -/
def toResults (items : Items) (key : ItemKey) : Option ItemResult := (items key).map StoredItem.toResult

/-- `toLegacyItems`: passed, or not. -/
def toLegacyItems (results : ItemKey → Option ItemResult) (key : ItemKey) : Option Bool :=
  (results key).map fun value => value = .pass

/-- The items of a driver's checklist of the day, none where there is no row yet. -/
def SafetyStore.itemsToday (store : SafetyStore) (username : String) : Items :=
  ((store.checklists.find? (username, store.today)).map Checklist.items).getD fun _ => none

/-- `getTodayChecklist`: what an old app reads, and what a new one does. -/
def getTodayChecklist (store : SafetyStore) (username : String) :
    (ItemKey → Option Bool) × (ItemKey → Option ItemResult) :=
  (toLegacyItems (toResults (store.itemsToday username)), toResults (store.itemsToday username))

section

variable {store : SafetyStore} {username : String} {key : ItemKey}

/-- Merging an answer writes one item of one driver's list, and every other item stays as it is. -/
theorem itemsToday_merge (answer : ItemAnswer) (vehicleId : Option Nat) :
    ((ChecklistStatement.merge answer vehicleId).execute store).itemsToday username key =
      if username = answer.username ∧ key = answer.key then some (.result answer.result)
      else store.itemsToday username key := by
  -- The clock stands still, so today is the day the answer is written under.
  have day : ((ChecklistStatement.merge answer vehicleId).execute store).today = store.today := rfl
  rw [SafetyStore.itemsToday, day]
  simp only [ChecklistStatement.execute, Table.find?_upsert]
  by_cases own : username = answer.username
  · subst own
    rw [if_pos rfl, SafetyStore.itemsToday]
    cases store.checklists.find? (answer.username, store.today) with
    | none | some row =>
      -- Of the items of the row one is written.
      by_cases same : key = answer.key <;> simp [merged, same]
  · rw [if_neg fun same => own (Prod.mk.inj same).1, if_neg fun same => own same.1]
    rfl

/-- The condition on an event: nobody answers the driver's item anew, and the day does not end. -/
def Spares (username : String) (key : ItemKey) (pool : Pool SafetyStore ChecklistCall) :
    PoolEvent ChecklistEntry StoreAnswer SafetyEvent → Prop
  | .run index back => ∀ answer vehicleId, pool.calls[index]? = some (.merging answer vehicleId) →
    back.works = true → username = answer.username → key ≠ answer.key
  | .outside (.later elapsed) => dayOf (pool.shared.now + elapsed) = pool.shared.today
  | _ => True

/-- What happens outside the calls, on the same day, leaves every item as it is. -/
theorem itemsToday_happens {event : SafetyEvent} (day : (event.happens store).today = store.today) :
    (event.happens store).itemsToday username key = store.itemsToday username key := by
  unfold SafetyStore.itemsToday
  rw [day]
  cases event with
  | vehicleDeleted vehicleId =>
    simp only [SafetyEvent.happens, Table.find?_updateWhere, Option.map_map]
    -- The rows forget the vehicle, and keep what was answered.
    cases store.checklists.find? (username, store.today) with
    | none => rfl
    | some row =>
      simp only [Option.map_some, Function.comp_apply]
      split <;> rfl
  | _ => rfl

/-- A statement of a call that answers another item leaves this one as it is. -/
theorem itemsToday_next {call : ChecklistCall} {back : StoreAnswer}
    (other : ∀ answer vehicleId, call = .merging answer vehicleId → back.works = true →
      username = answer.username → key ≠ answer.key) :
    ((call.next store back).1.execute store).itemsToday username key = store.itemsToday username key := by
  cases call with
  | merging answer vehicleId =>
    simp only [ChecklistCall.next]
    split
    · rename_i works
      rw [itemsToday_merge, if_neg fun own => other answer vehicleId rfl works own.1 own.2]
    · rfl
  | findingVehicle answer | raising answer vehicleId =>
    -- Neither looking a vehicle up nor raising a defect writes a checklist.
    simp only [ChecklistCall.next]
    split <;> rfl
  | answered | refused | stopped => rfl

/-- An event that spares the item leaves it as it is, and the day with it. -/
theorem itemsToday_step {pool : Pool SafetyStore ChecklistCall}
    {event : PoolEvent ChecklistEntry StoreAnswer SafetyEvent} (spares : Spares username key pool event) :
    (safetySystem.step pool event).shared.itemsToday username key = pool.shared.itemsToday username key := by
  -- Of what happens outside, only the time and the deletion of a vehicle touch the day's checks.
  cases event with
  | call entry => rfl
  | stop index => rfl
  | outside event =>
    simp only [CallSystem.step]
    split
    · refine itemsToday_happens ?_
      cases event with
      | later elapsed => exact spares
      | _ => rfl
    · rfl
  | run index back =>
    rcases @CallSystem.step_run_cases _ _ _ _ _ _ _ safetySystem _ pool index back with same | ⟨call, others, taken, shared, -⟩
    · rw [same]
    · rw [shared]
      exact itemsToday_next fun answer vehicleId is_it => spares answer vehicleId (is_it ▸ taken.found)

end

/-- Once merged, an answer is what both apps show of its item, until it is answered anew or the day ends. -/
theorem getTodayChecklist_shows {pool : Pool SafetyStore ChecklistCall} {index : Nat} {back : StoreAnswer}
    {answer : ItemAnswer} {vehicleId : Option Nat} (found : pool.calls[index]? = some (.merging answer vehicleId))
    (works : back.works = true) {later : List (PoolEvent ChecklistEntry StoreAnswer SafetyEvent)}
    (spares : Along safetySystem.step (Spares answer.username answer.key)
      (safetySystem.step pool (.run index back)) later) :
    let shown := getTodayChecklist
      (run safetySystem.step pool (.run index back :: later)).shared answer.username
    shown.2 answer.key = some answer.result ∧ shown.1 answer.key = some (decide (answer.result = .pass)) := by
  -- The answer is written, and every later event leaves it as it is.
  have merged : (safetySystem.step pool (.run index back)).shared.itemsToday answer.username answer.key =
      some (.result answer.result) := by
    rw [CallSystem.step_lockless rfl found]
    change (((ChecklistCall.merging answer vehicleId).next pool.shared back).1.execute pool.shared).itemsToday _ _ = _
    simp only [ChecklistCall.next, works, if_true]
    rw [itemsToday_merge, if_pos ⟨rfl, rfl⟩]
  have stays : (run safetySystem.step pool (.run index back :: later)).shared.itemsToday answer.username answer.key =
      some (.result answer.result) :=
    @Along.invariant _ _ _ _ (fun pool =>
      pool.shared.itemsToday answer.username answer.key = some (.result answer.result))
      (fun pool event held admitted => (itemsToday_step admitted).trans held) _ _ merged spares
  -- Both views are read off the item that is stored.
  change Option.map StoredItem.toResult (SafetyStore.itemsToday _ _ _) = _ ∧
    Option.map _ (Option.map StoredItem.toResult (SafetyStore.itemsToday _ _ _)) = _
  rw [stays]
  exact ⟨rfl, rfl⟩

end Freight.Safety
