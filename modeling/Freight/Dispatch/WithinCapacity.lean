import Freight.Dispatch.Changes
import Freight.Dispatch.Load
import Freight.Dispatch.Loading

/-! No interleaving of assignments and reassignments loads a vehicle beyond its limit. -/

namespace Freight.Dispatch

variable {cfg : DispatchConfig} {board later : Board} {answer : LoadingAnswer}

/-- No vehicle with a recorded limit carries more than it. -/
def WithinCapacity (board : Board) : Prop :=
  ∀ vehicle ∈ board.vehicles.rows, ∀ limit, vehicle.maxWeightKg = some limit →
    (board.currentLoad vehicle.id none : ℚ) ≤ limit

/-- What is about to be put on a vehicle fits on it, one order left out of what it carries. -/
def Fits (board : Board) (vehicle : FleetVehicle) (leftOut : Option Nat) (weight : ℚ≥0) : Prop :=
  ∀ limit, vehicle.maxWeightKg = some limit →
    (board.currentLoad vehicle.id leftOut + weight : ℚ) ≤ limit

/-- A bundle whose orders were all found waiting, and are waiting still. -/
structure Bundle.Waits (board : Board) (asked : Bundle) (found : List DispatchOrder) : Prop where
  rows : board.pendingAmong asked.orderIds = found
  all : found.length = asked.orderIds.length

/-- What a transaction of `assignOrderBundle` has read, and relies on. -/
def AssignCall.Sound (board : Board) : AssignCall → Prop
  | .readPapers _ vehicle | .readCash _ vehicle | .lockOrders _ vehicle => vehicle ∈ board.vehicles.rows
  | .readLoad asked vehicle found => vehicle ∈ board.vehicles.rows ∧ asked.Waits board found
  | .update asked vehicle found | .insertLogs asked vehicle found | .commit asked vehicle found =>
    vehicle ∈ board.vehicles.rows ∧ asked.Waits board found ∧
      Fits board vehicle none (totalWeight found)
  | .selectDriver _ | .lockVehicle _ _ | .done _ => True

/-- What a transaction of `reassignOrder` has read, and relies on. -/
def ReassignCall.Sound (board : Board) : ReassignCall → Prop
  -- The order is locked, so its row is as it was read.
  | .unassign asked order | .logUnassigned asked order | .commitUnassigned asked order
  | .selectDriver asked order | .lockVehicle asked order _ => board.order asked.id = some order
  | .readPapers asked order vehicle | .readLoad asked order vehicle =>
    vehicle ∈ board.vehicles.rows ∧ board.order asked.id = some order
  -- The vehicle is locked too, so the load still fits.
  | .update asked order vehicle | .insertLog asked order vehicle | .commit asked order vehicle =>
    vehicle ∈ board.vehicles.rows ∧ board.order asked.id = some order ∧
      Fits board vehicle (some asked.id) order.weightKg
  | .lockOrder _ | .done _ => True

/-- What a transaction has read, and relies on. -/
def LoadingCall.Sound (board : Board) : LoadingCall → Prop
  | .assign call => call.Sound board
  | .reassign call => call.Sound board
  | .stopped => True

/-- What happened to the board has left the rows of some locks alone, and loaded no locked vehicle. -/
structure Undisturbed (board later : Board) (held : List RowLock) : Prop where
  vehicles : later.vehicles = board.vehicles
  waiting : ∀ orderIds, (∀ id ∈ orderIds, .order id ∈ held) →
    later.pendingAmong orderIds = board.pendingAmong orderIds
  orders : ∀ id, .order id ∈ held → later.order id = board.order id
  loads : ∀ vehicleId, .vehicle vehicleId ∈ held → ∀ leftOut,
    later.currentLoad vehicleId leftOut ≤ board.currentLoad vehicleId leftOut

/-- Nothing has happened. -/
theorem Undisturbed.refl (board : Board) (held : List RowLock) : Undisturbed board board held where
  -- The board is the one it was.
  vehicles := rfl
  waiting := fun _ _ => rfl
  orders := fun _ _ => rfl
  loads := fun _ _ _ => le_refl _

/-- An update of other orders, which puts none of them on a locked vehicle, disturbs nothing. -/
theorem undisturbed_updateWhere {held : List RowLock} {chosen : DispatchOrder → Bool}
    {change : DispatchOrder → DispatchOrder} {keeps : ∀ order : DispatchOrder, (change order).id = order.id}
    (vehicles : later.vehicles = board.vehicles)
    (written : later.orders = board.orders.updateWhere chosen change keeps)
    (weights : ∀ order, (change order).weightKg = order.weightKg)
    (apart : ∀ order ∈ board.orders.rows, chosen order = true → .order order.id ∉ held)
    (unloaded : ∀ vehicleId, .vehicle vehicleId ∈ held → ∀ order ∈ board.orders.rows,
      chosen order = true → (change order).vehicleId = some vehicleId → (change order).isOpen = true →
        order.vehicleId = some vehicleId ∧ order.isOpen = true) : Undisturbed board later held where
  vehicles := vehicles
  waiting := fun orderIds locked =>
    pendingAmong_updateWhere written fun order member picked listed =>
      apart order member picked (locked _ listed)
  orders := fun id locked => by
    have found : later.order id =
        (board.order id).map fun order => if chosen order then change order else order := by
      unfold Board.order
      rw [written]
      exact Table.find?_updateWhere _ _ _ keeps _
    rw [found]
    cases before : board.order id with
    | none => rfl
    | some order =>
      -- The row under a locked id is not among the chosen.
      obtain ⟨listed, rfl⟩ := Table.find?_eq_some.mp before
      rw [Option.map_some, if_neg fun picked => apart order listed picked locked]
  loads := fun vehicleId locked leftOut =>
    currentLoad_le_of_covered written weights fun order member picked =>
      unloaded vehicleId locked order member picked

/-- A change of one order that is not locked disturbs nothing, where it puts it on no locked vehicle. -/
theorem undisturbed_changeOrder {held : List RowLock} {target : Nat} {change : DispatchOrder → DispatchOrder}
    {keeps : ∀ order : DispatchOrder, (change order).id = order.id}
    (vehicles : later.vehicles = board.vehicles)
    (written : later.orders = (board.changeOrder target change keeps).orders)
    (weights : ∀ order, (change order).weightKg = order.weightKg) (apart : .order target ∉ held)
    (unloaded : ∀ vehicleId, .vehicle vehicleId ∈ held → ∀ order, board.order target = some order →
      (change order).vehicleId = some vehicleId → (change order).isOpen = true →
        order.vehicleId = some vehicleId ∧ order.isOpen = true) : Undisturbed board later held := by
  apply undisturbed_updateWhere vehicles (show _ = board.orders.updateWhere _ change keeps from written) weights
  · intro order _ picked
    have own : order.id = target := of_decide_eq_true picked
    rw [own]
    exact apart
  · -- The one row that is picked is the row that is found under the id.
    intro vehicleId locked order member picked
    exact unloaded vehicleId locked order (Table.find?_eq_some.mpr ⟨member, of_decide_eq_true picked⟩)

/-- What fits on a locked vehicle still fits on it. -/
theorem Fits.undisturbed {vehicle : FleetVehicle} {leftOut : Option Nat} {weight : ℚ≥0}
    (fits : Fits board vehicle leftOut weight) {held : List RowLock}
    (undisturbed : Undisturbed board later held) (locked : .vehicle vehicle.id ∈ held) :
    Fits later vehicle leftOut weight := by
  -- While the vehicle is locked nothing is loaded onto it.
  intro limit most
  have load : (later.currentLoad vehicle.id leftOut : ℚ) ≤ board.currentLoad vehicle.id leftOut := by
    exact_mod_cast undisturbed.loads _ locked leftOut
  exact le_trans (add_le_add_left load _) (fits limit most)

/-- Each order of a bundle that waits is among those found. -/
theorem Bundle.Waits.locked {asked : Bundle} {found : List DispatchOrder}
    (waits : asked.Waits board found) {id : Nat} (listed : id ∈ asked.orderIds) :
    RowLock.order id ∈ found.map fun order => RowLock.order order.id := by
  -- As many rows were found as were asked for, so each id has its row, and its lock.
  have all : (board.pendingAmong asked.orderIds).length = asked.orderIds.length := by
    rw [waits.rows]
    exact waits.all
  obtain ⟨order, member, rfl, pending⟩ := board.orders.passing_of_length all listed
  refine List.mem_map.mpr ⟨order, ?_, rfl⟩
  rw [← waits.rows]
  exact List.mem_filter.mpr ⟨member, by simpa [listed] using pending⟩

/-- A bundle whose rows are all locked still waits. -/
theorem Bundle.Waits.undisturbed {asked : Bundle} {found : List DispatchOrder}
    (waits : asked.Waits board found) {held : List RowLock} (undisturbed : Undisturbed board later held)
    (locked : ∀ order ∈ found, RowLock.order order.id ∈ held) : asked.Waits later found where
  -- A locked row that waited still does.
  rows := by
    rw [undisturbed.waiting _ fun id listed => ?_, waits.rows]
    obtain ⟨order, member, same⟩ := List.mem_map.mp (waits.locked listed)
    rw [← same]
    exact locked order member
  all := waits.all

/-- What a transaction relies on holds as long as its locks are left alone. -/
theorem LoadingCall.Sound.undisturbed {call : LoadingCall} (sound : call.Sound board)
    (undisturbed : Undisturbed board later call.holds) : call.Sound later := by
  have vehicles := undisturbed.vehicles
  -- Each step relies on a vehicle that is listed, on the orders it has locked, and on the room it has read.
  cases call with
  | stopped => trivial
  | assign call =>
    cases call with
    | selectDriver | lockVehicle | done => trivial
    | readPapers asked vehicle | readCash asked vehicle | lockOrders asked vehicle =>
      show vehicle ∈ later.vehicles.rows
      rw [vehicles]
      exact sound
    | readLoad asked vehicle found =>
      refine ⟨by rw [vehicles]; exact sound.1, sound.2.undisturbed undisturbed fun order member => ?_⟩
      exact List.mem_cons_of_mem _ (List.mem_map_of_mem member)
    | update asked vehicle found | insertLogs asked vehicle found | commit asked vehicle found =>
      -- The room is read under the lock of the vehicle, which is the first of the locks.
      refine ⟨by rw [vehicles]; exact sound.1, sound.2.1.undisturbed undisturbed fun order member => ?_,
        sound.2.2.undisturbed undisturbed List.mem_cons_self⟩
      exact List.mem_cons_of_mem _ (List.mem_map_of_mem member)
  | reassign call =>
    cases call with
    | lockOrder | done => trivial
    | unassign asked order | logUnassigned asked order | commitUnassigned asked order
    | selectDriver asked order | lockVehicle asked order driverId =>
      exact (undisturbed.orders _ List.mem_cons_self).trans sound
    | readPapers asked order vehicle | readLoad asked order vehicle =>
      refine ⟨by rw [vehicles]; exact sound.1, (undisturbed.orders _ ?_).trans sound.2⟩
      exact List.mem_cons_of_mem _ List.mem_cons_self
    | update asked order vehicle | insertLog asked order vehicle | commit asked order vehicle =>
      refine ⟨by rw [vehicles]; exact sound.1, (undisturbed.orders _ ?_).trans sound.2.1,
        sound.2.2.undisturbed undisturbed List.mem_cons_self⟩
      exact List.mem_cons_of_mem _ List.mem_cons_self

/-- The rows a statement writes under. -/
def LoadingStatement.guards : LoadingStatement → List RowLock
  | .unseen | .lock _ => []
  | .commitBundle asked vehicleId => .vehicle vehicleId :: asked.orderIds.map .order
  | .commitUnassigned asked => [.order asked.id]
  | .commitReassigned asked vehicleId => [.vehicle vehicleId, .order asked.id]

/-- A statement disturbs nothing but the rows it writes under. -/
theorem LoadingStatement.undisturbed (statement : LoadingStatement) {held : List RowLock}
    (apart : ∀ key ∈ statement.guards, key ∉ held) :
    Undisturbed board (statement.execute board) held := by
  -- Only a COMMIT writes rows, and it writes those that its own transaction holds.
  cases statement with
  | unseen | lock rows => exact Undisturbed.refl board held
  | commitBundle asked vehicleId =>
    apply undisturbed_updateWhere
    · exact rfl
    · exact rfl
    · exact fun _ => rfl
    · intro order _ picked
      exact apart _ (List.mem_cons_of_mem _ (List.mem_map_of_mem (List.contains_iff_mem.mp picked)))
    · -- The bundle goes to the vehicle its own transaction has locked.
      rintro other locked order _ _ on_board _
      exact absurd (Option.some.inj on_board ▸ locked) (apart _ List.mem_cons_self)
    · exact fun _ => rfl
  | commitUnassigned asked =>
    apply undisturbed_changeOrder
    · exact rfl
    · exact rfl
    · exact fun _ => rfl
    · exact apart _ List.mem_cons_self
    · -- An order that is taken off is on no vehicle afterwards.
      intro vehicleId _ order _ on_board _
      cases on_board
    · exact fun _ => rfl
  | commitReassigned asked vehicleId =>
    apply undisturbed_changeOrder
    · exact rfl
    · exact rfl
    · exact fun _ => rfl
    · exact apart _ (List.mem_cons_of_mem _ List.mem_cons_self)
    · -- The vehicle that gets the order is locked by the same transaction.
      intro vehicleId locked order _ on_board _
      exact absurd (Option.some.inj on_board ▸ locked) (apart _ List.mem_cons_self)
    · exact fun _ => rfl

/-- A finished order is on board nothing. -/
theorem not_isOpen_of_terminal {order : DispatchOrder} (finished : isTerminal order.status = true) :
    order.isOpen = false := by
  -- A final status is not among the open ones.
  unfold DispatchOrder.isOpen
  rw [finished]
  rfl

/-- A status update changes neither the weight of an order nor the vehicle it is on. -/
theorem statusUpdated_load (order : DispatchOrder) (status : OrderStatus) (code : String) :
    (order.statusUpdated cfg board status code).weightKg = order.weightKg := by
  -- Neither a new status nor a new code is a weight.
  unfold DispatchOrder.statusUpdated
  split
  · simp only [DispatchOrder.codeIssued]
    split <;> rfl
  · rfl

/-- Finishing an order disturbs no row but its own. -/
theorem Finishing.undisturbed (finishing : Finishing) {held : List RowLock}
    (apart : .order finishing.id ∉ held) : Undisturbed board (finishing.happens cfg board) held := by
  cases finishing with
  | cancel requester id code =>
    simp only [Finishing.happens]
    split
    · rename_i written done
      obtain ⟨order, status, passes, -, rfl⟩ := updateOrderStatus_accepted.mp done
      obtain ⟨named, found, -, moves⟩ := statusChange_ok passes
      obtain rfl := Option.some.inj named
      apply undisturbed_changeOrder
      · exact rfl
      · exact rfl
      · exact fun order => statusUpdated_load order _ code
      · exact apart
      · -- The order that is cancelled is open no longer.
        intro vehicleId _ other there _ open_
        obtain rfl := Option.some.inj (found.symm.trans there)
        have cancelled : (order.statusUpdated cfg board .cancelled code).status = .cancelled :=
          congrArg Standing.status (standing_statusUpdated code moves)
        rw [not_isOpen_of_terminal (by rw [cancelled]; rfl)] at open_
        cases open_
      · exact fun _ => statusUpdated_id ..
    · exact Undisturbed.refl board held
  | deliver requester id proof =>
    simp only [Finishing.happens]
    split
    · rename_i written done
      obtain ⟨_, -, order, -, -, -, rfl⟩ := confirmDelivery_accepted.mp done
      apply undisturbed_changeOrder
      · exact rfl
      · exact rfl
      · exact fun _ => rfl
      · exact apart
      · -- What is delivered is open no longer.
        intro vehicleId _ other _ _ open_
        rw [not_isOpen_of_terminal rfl] at open_
        cases open_
      · exact fun _ => rfl
    · rename_i failure _
      -- A proof that is refused counts one guess on the order, and its load stays.
      unfold afterRefusedProof
      split
      · apply undisturbed_changeOrder
        · exact rfl
        · exact rfl
        · exact fun _ => rfl
        · exact apart
        · exact fun vehicleId _ other _ on_board open_ => ⟨on_board, open_⟩
      · exact Undisturbed.refl board held

/-- What a transaction of `assignOrderBundle` holds, it held before or has waited for. -/
theorem AssignCall.next_holds (call : AssignCall) :
    ∀ key ∈ (call.next cfg board).2.holds,
      key ∈ call.holds ∨ key ∈ (call.next cfg board).1.needs := by
  intro key held
  cases call with
  -- Each SELECT … FOR UPDATE adds the rows it locks, and each way out gives up all of them.
  | selectDriver asked =>
    simp only [AssignCall.next] at held
    split at held <;> cases held
  | lockVehicle asked driverId =>
    simp only [AssignCall.next] at held ⊢
    split at held
    · cases held
    · exact .inr held
  | readPapers asked vehicle =>
    simp only [AssignCall.next] at held
    split at held
    · exact .inl held
    · cases held
  | readCash asked vehicle =>
    simp only [AssignCall.next] at held
    split at held
    · cases held
    · exact .inl held
  | lockOrders asked vehicle =>
    -- The vehicle was locked before, and the orders are locked now.
    simp only [AssignCall.next, AssignCall.locked] at held ⊢
    repeat' split at held
    all_goals first
      | cases held; done
      | (rcases List.mem_cons.mp held with rfl | order
         · exact .inl List.mem_cons_self
         · exact .inr order)
  | readLoad asked vehicle found =>
    simp only [AssignCall.next] at held
    split at held
    · cases held
    · exact .inl held
  -- The writes hold what was held; COMMIT lets go of everything.
  | update | insertLogs => exact .inl held
  | commit | done => cases held

/-- What a transaction of `reassignOrder` holds, it held before or has waited for. -/
theorem ReassignCall.next_holds (call : ReassignCall) :
    ∀ key ∈ (call.next cfg board).2.holds,
      key ∈ call.holds ∨ key ∈ (call.next cfg board).1.needs := by
  intro key held
  -- The locks grow at the two SELECT … FOR UPDATE alone, which wait for what they take.
  cases call with
  -- The order is locked first, and the vehicle of the new driver after it.
  | lockOrder asked =>
    simp only [ReassignCall.next] at held ⊢
    split at held
    · cases held
    · unfold ReassignCall.locked at held
      repeat' split at held
      all_goals first
        | cases held; done
        | exact .inr held
  | selectDriver asked order =>
    simp only [ReassignCall.next] at held
    split at held
    · cases held
    · exact .inl held
  | lockVehicle asked order driverId =>
    simp only [ReassignCall.next] at held ⊢
    split at held
    · cases held
    · rcases List.mem_cons.mp held with rfl | own
      · exact .inr List.mem_cons_self
      · exact .inl own
  | readPapers asked order vehicle =>
    simp only [ReassignCall.next] at held
    repeat' split at held
    all_goals first
      | cases held; done
      | exact .inl held
  | readLoad asked order vehicle =>
    simp only [ReassignCall.next] at held
    split at held
    · cases held
    · exact .inl held
  | unassign | logUnassigned | update | insertLog => exact .inl held
  -- COMMIT lets go of everything.
  | commitUnassigned | commit | done => cases held

/-- A transaction comes to hold a row only by waiting for it. -/
theorem loading_disciplined (cfg : DispatchConfig) : (loading cfg).Disciplined where
  starts := fun entry => by
    show entry.start.holds = []
    unfold LoadingEntry.start
    cases entry <;> simp only <;> split <;> rfl
  stops := rfl
  waits := fun board answer call => by
    show ∀ key ∈ (call.next cfg board answer).2.holds,
      key ∈ call.holds ∨ key ∈ (call.next cfg board answer).1.needs
    cases call with
    | stopped => exact fun key held => by cases held
    | assign call =>
      -- A statement that fails ends the transaction, which drops its locks.
      by_cases fails : answer = .fails
      · simp only [LoadingCall.next, if_pos fails]
        exact fun key held => by cases held
      · simp only [LoadingCall.next, if_neg fails]
        exact call.next_holds
    | reassign call =>
      by_cases fails : answer = .fails
      · simp only [LoadingCall.next, if_pos fails]
        exact fun key held => by cases held
      · simp only [LoadingCall.next, if_neg fails]
        exact call.next_holds

/-- A bundle goes on as what its locked orders allow. -/
theorem AssignCall.locked_sound {asked : Bundle} {vehicle : FleetVehicle}
    (known : vehicle ∈ board.vehicles.rows) :
    (AssignCall.locked asked vehicle (board.pendingAmong asked.orderIds)).Sound board := by
  unfold AssignCall.locked
  split
  · trivial
  · -- As many rows as ids were found, so every order that was asked for is locked and waiting.
    rename_i all
    have waits : asked.Waits board (board.pendingAmong asked.orderIds) := ⟨rfl, not_not.mp all⟩
    split
    · split
      · -- A vehicle without a limit takes everything.
        rename_i unlimited
        refine ⟨known, waits, fun limit most => ?_⟩
        rw [most] at unlimited
        cases unlimited
      · exact ⟨known, waits⟩
    · trivial

/-- What a transaction of `assignOrderBundle` relies on next, it has just read or relied on before. -/
theorem AssignCall.next_sound {call : AssignCall} (sound : call.Sound board) :
    (call.next cfg board).2.Sound board := by
  cases call with
  -- Who drives what is not relied on until the vehicle is locked.
  | selectDriver asked =>
    simp only [AssignCall.next]
    split <;> trivial
  -- The vehicle is as it was read, from the moment it is locked.
  | lockVehicle asked driverId =>
    simp only [AssignCall.next]
    split
    · trivial
    · rename_i vehicle found
      exact (List.mem_filter.mp (Board.mem_of_vehicleOf found)).1
  | readPapers asked vehicle =>
    simp only [AssignCall.next]
    split
    · exact sound
    · trivial
  | readCash asked vehicle =>
    simp only [AssignCall.next]
    split
    · trivial
    · exact sound
  | lockOrders asked vehicle => exact AssignCall.locked_sound sound
  | readLoad asked vehicle found =>
    simp only [AssignCall.next]
    split
    · trivial
    · -- The load was read under the locks, so that it fits may be relied on from here.
      rename_i fits
      exact ⟨sound.1, sound.2, checkCapacity_ok.mp fits⟩
  -- Nothing new is read, so what was relied on still is.
  | update | insertLogs => exact sound
  | commit | done => trivial

/-- What a transaction of `reassignOrder` relies on next, it has just read or relied on before. -/
theorem ReassignCall.next_sound {call : ReassignCall} (sound : call.Sound board) :
    (call.next cfg board).2.Sound board := by
  cases call with
  | lockOrder asked =>
    simp only [ReassignCall.next]
    split
    · trivial
    · rename_i order found
      unfold ReassignCall.locked
      repeat' split
      all_goals trivial
  | selectDriver asked order =>
    simp only [ReassignCall.next]
    split
    · trivial
    · exact sound
  | lockVehicle asked order driverId =>
    simp only [ReassignCall.next]
    split
    · trivial
    · rename_i vehicle found
      exact ⟨(List.mem_filter.mp (Board.mem_of_vehicleOf found)).1, sound⟩
  | readPapers asked order vehicle =>
    simp only [ReassignCall.next]
    split
    · split
      · -- A vehicle without a limit takes everything.
        rename_i unlimited
        refine ⟨sound.1, sound.2, fun limit most => ?_⟩
        rw [most] at unlimited
        cases unlimited
      · exact sound
    · trivial
  | readLoad asked order vehicle =>
    simp only [ReassignCall.next]
    split
    · trivial
    · -- The load was read under the locks, so that it fits may be relied on from here.
      rename_i fits
      exact ⟨sound.1, sound.2, checkCapacity_ok.mp fits⟩
  | unassign | logUnassigned | update | insertLog => exact sound
  | commitUnassigned | commit | done => trivial

/-- A statement that commits something. -/
def LoadingStatement.commits : LoadingStatement → Bool
  | .unseen | .lock _ => false
  | .commitBundle _ _ | .commitUnassigned _ | .commitReassigned _ _ => true

/-- Any other leaves the board as it is. -/
theorem LoadingStatement.execute_of_quiet {statement : LoadingStatement}
    (commits : statement.commits = false) : statement.execute board = board := by
  -- A search and a lock write nothing.
  cases statement with
  | unseen | lock => rfl
  | commitBundle | commitUnassigned | commitReassigned => cases commits

/-- Nor does it write under a lock. -/
theorem LoadingStatement.guards_of_quiet {statement : LoadingStatement}
    (commits : statement.commits = false) : statement.guards = [] := by
  -- A search and a lock write nothing.
  cases statement with
  | unseen | lock => rfl
  | commitBundle | commitUnassigned | commitReassigned => cases commits

/-- A transaction at its COMMIT. -/
inductive LoadingCall.Commits : LoadingCall → LoadingStatement → Prop where
  | bundle (asked : Bundle) (vehicle : FleetVehicle) (found : List DispatchOrder) :
      Commits (.assign (.commit asked vehicle found)) (.commitBundle asked vehicle.id)
  | unassigned (asked : Reassignment) (order : DispatchOrder) :
      Commits (.reassign (.commitUnassigned asked order)) (.commitUnassigned asked)
  | reassigned (asked : Reassignment) (order : DispatchOrder) (vehicle : FleetVehicle) :
      Commits (.reassign (.commit asked order vehicle)) (.commitReassigned asked vehicle.id)

/-- Only a transaction at its COMMIT commits anything, and it relies on nothing afterwards. -/
theorem LoadingCall.commits_of_next {call : LoadingCall}
    (commits : (call.next cfg board answer).1.commits = true) :
    call.Commits (call.next cfg board answer).1 ∧ ∀ later, (call.next cfg board answer).2.Sound later := by
  -- In either transaction one step commits, and it is the last.
  cases call with
  | stopped => cases commits
  | assign call =>
    by_cases fails : answer = .fails
    · simp only [LoadingCall.next, if_pos fails] at commits
      cases commits
    · simp only [LoadingCall.next, if_neg fails] at commits ⊢
      cases call with
      | commit asked vehicle found => exact ⟨.bundle asked vehicle found, fun _ => trivial⟩
      | lockVehicle asked driverId =>
        simp only [AssignCall.next] at commits
        split at commits <;> cases commits
      | _ => cases commits
  | reassign call =>
    by_cases fails : answer = .fails
    · simp only [LoadingCall.next, if_pos fails] at commits
      cases commits
    · simp only [LoadingCall.next, if_neg fails] at commits ⊢
      cases call with
      | commitUnassigned asked order => exact ⟨.unassigned asked order, fun _ => trivial⟩
      | commit asked order vehicle => exact ⟨.reassigned asked order vehicle, fun _ => trivial⟩
      | lockOrder asked | lockVehicle asked order driverId =>
        simp only [ReassignCall.next] at commits
        split at commits <;> cases commits
      | _ => cases commits

/-- Whatever a transaction relies on next holds of the board its step leaves. -/
theorem LoadingCall.next_sound {call : LoadingCall} (sound : call.Sound board) :
    (call.next cfg board answer).2.Sound ((call.next cfg board answer).1.execute board) := by
  -- A statement that commits nothing leaves the board as it was.
  cases commits : (call.next cfg board answer).1.commits with
  | true => exact (call.commits_of_next commits).2 _
  | false =>
    rw [LoadingStatement.execute_of_quiet commits]
    cases call with
    | stopped => trivial
    | assign call =>
      by_cases fails : answer = .fails
      · simp only [LoadingCall.next, if_pos fails]
        trivial
      · simp only [LoadingCall.next, if_neg fails]
        exact AssignCall.next_sound sound
    | reassign call =>
      by_cases fails : answer = .fails
      · simp only [LoadingCall.next, if_pos fails]
        trivial
      · simp only [LoadingCall.next, if_neg fails]
        exact ReassignCall.next_sound sound

/-- What a transaction writes under, it holds. -/
theorem LoadingCall.guards_held {call : LoadingCall} (sound : call.Sound board) :
    ∀ key ∈ (call.next cfg board answer).1.guards, key ∈ call.holds := by
  cases commits : (call.next cfg board answer).1.commits with
  | false =>
    -- A statement that commits nothing writes under no lock.
    rw [LoadingStatement.guards_of_quiet commits]
    exact fun key guarded => by cases guarded
  | true =>
    have writes := (call.commits_of_next commits).1
    generalize (call.next cfg board answer).1 = statement at writes
    cases writes with
    | bundle asked vehicle found =>
      intro key guarded
      rcases List.mem_cons.mp guarded with rfl | listed
      · exact List.mem_cons_self
      · -- Every order of the bundle is among the rows that were found and locked.
        obtain ⟨id, named, rfl⟩ := List.mem_map.mp listed
        exact List.mem_cons_of_mem _ (sound.2.1.locked named)
    | unassigned | reassigned => exact fun key guarded => guarded

/-- A commit keeps every vehicle within its limit. -/
theorem withinCapacity_execute {call : LoadingCall} (within : WithinCapacity board)
    (sound : call.Sound board) :
    WithinCapacity ((call.next cfg board answer).1.execute board) := by
  cases commits : (call.next cfg board answer).1.commits with
  | false =>
    rw [LoadingStatement.execute_of_quiet commits]
    exact within
  | true =>
    have writes := (call.commits_of_next commits).1
    generalize (call.next cfg board answer).1 = statement at writes
    -- A vehicle that is not written under carries no more than before.
    have others : ∀ vehicle ∈ board.vehicles.rows, ∀ limit, vehicle.maxWeightKg = some limit →
        RowLock.vehicle vehicle.id ∉ statement.guards →
        ((statement.execute board).currentLoad vehicle.id none : ℚ) ≤ limit := by
      intro vehicle listed limit most unguarded
      have disturbs := @LoadingStatement.undisturbed board statement [.vehicle vehicle.id]
        fun key guarded same => unguarded (List.mem_singleton.mp same ▸ guarded)
      refine le_trans ?_ (within vehicle listed limit most)
      exact_mod_cast disturbs.loads _ List.mem_cons_self none
    cases writes with
    | unassigned asked order =>
      intro vehicle listed limit most
      exact others vehicle listed limit most (by simp [LoadingStatement.guards])
    | bundle asked vehicle found =>
      obtain ⟨known, waits, fits⟩ := sound
      intro other listed limit most
      by_cases same : other.id = vehicle.id
      · -- The bundle was weighed against what its vehicle still carries.
        obtain rfl := board.vehicles.same_row listed known same
        refine le_trans ?_ (fits limit most)
        rw [← waits.rows]
        exact_mod_cast currentLoad_assigned rfl fun order member asked =>
          of_decide_eq_true (board.orders.passes_of_length (by rw [← waits.all, ← waits.rows]; rfl)
            member (List.contains_iff_mem.mp asked))
      · exact others other listed limit most (by simp [LoadingStatement.guards, same])
    | reassigned asked order vehicle =>
      obtain ⟨known, found, fits⟩ := sound
      intro other listed limit most
      by_cases same : other.id = vehicle.id
      · obtain rfl := board.vehicles.same_row listed known same
        refine le_trans ?_ (fits limit most)
        exact_mod_cast currentLoad_reassigned found rfl
      · exact others other listed limit most (by simp [LoadingStatement.guards, same])

/-- What every interleaving keeps: capacity, exclusive locks, and what each transaction relies on. -/
structure Weighed (cfg : DispatchConfig) (board : Board) (calls : List LoadingCall) : Prop where
  within : WithinCapacity board
  exclusive : (loading cfg).Exclusive calls
  sound : ∀ call ∈ calls, call.Sound board

/-- Every statement, arrival, stop and finished order keeps it. -/
theorem weighed_keeps (cfg : DispatchConfig) :
    (loading cfg).Keeps (fun board calls => Weighed cfg board calls) fun _ _ => True where
  perm same inv :=
    ⟨inv.within, inv.exclusive.perm same, fun call member => inv.sound call (same.mem_iff.mpr member)⟩
  moves := by
    intro pool index answer call others taken inv _
    have sound := inv.sound call List.mem_cons_self
    refine ⟨withinCapacity_execute inv.within sound,
      (loading_disciplined cfg).exclusive_keeps.moves taken inv.exclusive trivial, ?_⟩
    intro other member
    rcases List.mem_cons.mp member with rfl | other_one
    · exact LoadingCall.next_sound sound
    · -- What is written under is held by the call that writes, so by no other.
      refine (inv.sound other (List.mem_cons_of_mem _ other_one)).undisturbed
        (LoadingStatement.undisturbed _ fun key guarded => ?_)
      exact inv.exclusive.apart taken (.inl (LoadingCall.guards_held sound key guarded)) other_one
  arrives := by
    intro pool entry inv _
    refine ⟨inv.within, (loading_disciplined cfg).exclusive_keeps.arrives inv.exclusive trivial, ?_⟩
    intro call member
    rcases List.mem_cons.mp member with rfl | before
    · show entry.start.Sound pool.shared
      unfold LoadingEntry.start
      cases entry <;> simp only <;> split <;> trivial
    · exact inv.sound call before
  stops := by
    intro pool index call others found inv _
    refine ⟨inv.within, (loading_disciplined cfg).exclusive_keeps.stops found inv.exclusive trivial, ?_⟩
    intro other member
    rcases List.mem_cons.mp member with rfl | before
    · trivial
    · exact inv.sound other (List.mem_cons_of_mem _ before)
  happens := by
    intro pool finishing inv _ free
    have apart : ∀ call ∈ pool.calls, RowLock.order finishing.id ∉ call.holds := fun call member =>
      free call member _ List.mem_cons_self
    refine ⟨?_, inv.exclusive, fun call member =>
      (inv.sound call member).undisturbed (finishing.undisturbed (apart call member))⟩
    -- A vehicle carries no more once an order is finished.
    intro vehicle listed limit most
    have disturbs := @Finishing.undisturbed cfg pool.shared finishing [.vehicle vehicle.id] (by simp)
    have listed : vehicle ∈ pool.shared.vehicles.rows := disturbs.vehicles ▸ listed
    refine le_trans ?_ (inv.within vehicle listed limit most)
    exact_mod_cast disturbs.loads _ List.mem_cons_self none

/-- However assignments, reassignments and finished orders interleave, every vehicle keeps its limit. -/
theorem withinCapacity_throughout (cfg : DispatchConfig) (board : Board)
    (events : List (PoolEvent LoadingEntry LoadingAnswer Finishing)) (within : WithinCapacity board) :
    Throughout (loading cfg).step (fun pool => WithinCapacity pool.shared) ⟨board, []⟩ events := by
  -- No condition is put on any event.
  have kept : ∀ pool event, Weighed cfg pool.shared pool.calls →
      Weighed cfg ((loading cfg).step pool event).shared ((loading cfg).step pool event).calls :=
    fun pool event inv => (weighed_keeps cfg).step pool event inv trivial
  have initial : Weighed cfg board [] := ⟨within, List.Pairwise.nil, fun call member => by cases member⟩
  have always := @throughout_of_step _ _ (loading cfg).step
    (fun pool => Weighed cfg pool.shared pool.calls) kept ⟨board, []⟩ initial events
  exact always.mono fun pool inv => inv.within

/-- One vehicle that takes half a tonne, and two orders waiting that do not fit on it together. -/
def oneVehicle : Board where
  orders := ⟨[{ id := 1, weightKg := 280, pickup := some ⟨-2, 30⟩, delivery := some ⟨-1, 30⟩ },
    { id := 2, weightKg := 280, pickup := some ⟨-2, 30⟩, delivery := some ⟨-1, 30⟩ }], by decide⟩
  users := ⟨[{ id := 1, username := "+250788000001", role := .driver }], by decide⟩
  vehicles := ⟨[{ id := 1, currentDriverId := some 1, maxWeightKg := some 500 }], by decide⟩
  driverDocuments := driverDocumentTypes.map fun type =>
    { holder := "+250788000001", documentType := type, status := .approved }
  vehicleDocuments := vehicleDocumentTypes.map fun type =>
    { holder := 1, documentType := type, status := .approved }

/-- Both orders assigned at once, the two transactions taking turns. -/
def bothAtOnce : List (PoolEvent LoadingEntry LoadingAnswer Finishing) :=
  [.call (.assignOrderBundle ⟨aDispatcher, [1], "+250788000001"⟩),
    .call (.assignOrderBundle ⟨aDispatcher, [2], "+250788000001"⟩)] ++
    (List.replicate 18 [.run 0 .works, .run 1 .works]).flatten

/-- The vehicle is not overloaded. -/
theorem withinCapacity_bothAtOnce :
    Throughout (loading .kigali).step (fun pool => WithinCapacity pool.shared) ⟨oneVehicle, []⟩
      bothAtOnce := by
  -- The one vehicle starts out empty.
  apply withinCapacity_throughout
  intro vehicle listed limit most
  obtain rfl := List.mem_singleton.mp listed
  obtain rfl := Option.some.inj most
  decide +kernel

end Freight.Dispatch
