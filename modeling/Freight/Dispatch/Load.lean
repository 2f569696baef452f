import Mathlib.Algebra.BigOperators.Group.List.Lemmas
import Mathlib.Algebra.Order.BigOperators.Group.List
import Mathlib.Algebra.Order.Ring.NNRat
import Freight.Dispatch.Orders

/-! What the open orders of a vehicle weigh together, before and after one is given to it. -/

namespace Freight.Dispatch

variable {board : Board} {vehicleId id : Nat} {left_out : Option Nat}

/-- Weighing the chosen orders is weighing all of them, the others at nothing. -/
theorem totalWeight_filter (chosen : DispatchOrder → Bool) (orders : List DispatchOrder) :
    totalWeight (orders.filter chosen) =
      (orders.map fun order => if chosen order then order.weightKg else 0).sum := by
  -- By induction: an order that is not chosen adds nothing to either sum.
  unfold totalWeight
  induction orders with
  | nil => rfl
  | cons order rest ih =>
    rw [List.filter_cons, List.map_cons, List.sum_cons, ← ih]
    by_cases picked : chosen order = true
    · rw [if_pos picked, if_pos picked, List.map_cons, List.sum_cons]
    · rw [if_neg picked, if_neg picked, zero_add]

/-- The orders one test chooses weigh no more than those of two tests that cover it. -/
theorem totalWeight_filter_le {chosen one other : DispatchOrder → Bool} (orders : List DispatchOrder)
    (covered : ∀ order ∈ orders, chosen order = true → one order = true ∨ other order = true) :
    totalWeight (orders.filter chosen) ≤
      totalWeight (orders.filter one) + totalWeight (orders.filter other) := by
  rw [totalWeight_filter, totalWeight_filter, totalWeight_filter, ← List.sum_map_add]
  apply List.sum_le_sum
  intro order member
  -- An order that is chosen counts once on the left, and at least once on the right.
  by_cases picked : chosen order = true
  · rw [if_pos picked]
    rcases covered order member picked with first | second
    · rw [if_pos first]
      exact le_self_add
    · rw [if_pos second]
      exact le_add_self
  · rw [if_neg picked]
    exact zero_le

/-- A change that leaves every weight alone may be made after the weighing. -/
theorem totalWeight_map {change : DispatchOrder → DispatchOrder} {chosen : DispatchOrder → Bool}
    (same : ∀ order, (change order).weightKg = order.weightKg) (orders : List DispatchOrder) :
    totalWeight ((orders.map change).filter chosen) =
      totalWeight (orders.filter fun order => chosen (change order)) := by
  -- The weights that are added up are those of before the change.
  unfold totalWeight
  rw [List.filter_map, List.map_map]
  exact congrArg List.sum (List.map_congr_left fun order _ => same order)

/-- A single order's share of a load is its own weight. -/
theorem totalWeight_filter_id {order : DispatchOrder} (found : board.order id = some order) :
    totalWeight (board.orders.rows.filter fun order => order.id = id) = order.weightKg := by
  -- Only one row is under an id.
  have only := board.orders.filter_key id
  unfold Board.order at found
  rw [found] at only
  rw [only]
  exact add_zero _

/-- The open orders of a vehicle, with one that is on its way to it counted among them. -/
def Board.loadWith (board : Board) (vehicleId id : Nat) : ℚ≥0 :=
  totalWeight <| board.orders.rows.filter fun order =>
    (order.vehicleId = some vehicleId || order.id = id) && order.isOpen

/-- An order that is on the vehicle already is counted once. -/
theorem loadWith_of_on_board {order : DispatchOrder} (found : board.order id = some order)
    (on_board : order.vehicleId = some vehicleId) :
    board.loadWith vehicleId id = board.currentLoad vehicleId none := by
  unfold Board.loadWith Board.currentLoad
  congr 1
  apply List.filter_congr
  intro other member
  by_cases own : other.id = id
  · -- There is one order under an id, and it is the one that was found.
    obtain ⟨listed, same⟩ := Table.find?_eq_some.mp found
    rw [board.orders.same_row member listed (own.trans same.symm)]
    simp [on_board]
  · simp [own]

/-- After an update of orders, a vehicle carries no more than the orders that can be on it now. -/
theorem currentLoad_updateWhere_le {chosen one other : DispatchOrder → Bool}
    {change : DispatchOrder → DispatchOrder} {keeps : ∀ order : DispatchOrder, (change order).id = order.id}
    {later : Board} (written : later.orders = board.orders.updateWhere chosen change keeps)
    (same : ∀ order, (change order).weightKg = order.weightKg)
    (covered : ∀ order ∈ board.orders.rows,
      (if chosen order then change order else order).vehicleId = some vehicleId →
      (if chosen order then change order else order).isOpen = true → left_out ≠ some order.id →
        one order = true ∨ other order = true) :
    later.currentLoad vehicleId left_out ≤
      totalWeight (board.orders.rows.filter one) + totalWeight (board.orders.rows.filter other) := by
  -- What is aboard afterwards is among the orders of the one kind or of the other.
  unfold Board.currentLoad
  rw [written]
  have kept : ∀ order, (if chosen order then change order else order).weightKg = order.weightKg ∧
      (if chosen order then change order else order).id = order.id := by
    intro order
    split
    · exact ⟨same order, keeps order⟩
    · exact ⟨rfl, rfl⟩
  refine (le_of_eq (totalWeight_map (fun order => (kept order).1) _)).trans (totalWeight_filter_le _ ?_)
  intro order member passes
  simp only [Bool.and_eq_true, decide_eq_true_eq, (kept order).2] at passes
  exact covered order member passes.1.1 passes.1.2 passes.2

/-- A bundle that was waiting adds no more than its own weight to the vehicle it is assigned to. -/
theorem currentLoad_assigned {orderIds : List Nat} {name : String} {later : Board}
    (written : later.orders = board.orders.updateWhere (fun order => orderIds.contains order.id)
      (fun order => order.assigned name vehicleId) fun _ => rfl)
    (waiting : ∀ order ∈ board.orders.rows, orderIds.contains order.id = true → order.status = .pending) :
    later.currentLoad vehicleId none ≤
      board.currentLoad vehicleId none + totalWeight (board.pendingAmong orderIds) := by
  -- What is aboard afterwards was aboard before, or is of the bundle.
  apply currentLoad_updateWhere_le written
  · exact fun _ => rfl
  · intro order member on_board open_ _
    by_cases picked : orderIds.contains order.id = true
    · exact .inr (by rw [picked, waiting order member picked]; rfl)
    · rw [if_neg picked] at on_board open_
      exact .inl (by simp [on_board, open_])

/-- An order that changes hands adds no more than its own weight to what else the vehicle carries. -/
theorem currentLoad_reassigned {order : DispatchOrder} {name : String} {later : Board}
    (found : board.order id = some order)
    (written : later.orders = board.orders.update id
      (fun order => { order with assignedTo := some name, vehicleId := some vehicleId }) fun _ => rfl) :
    later.currentLoad vehicleId none ≤ board.currentLoad vehicleId (some id) + order.weightKg := by
  -- What is aboard afterwards was aboard before, or is the order itself.
  rw [← totalWeight_filter_id found]
  apply currentLoad_updateWhere_le written
  · exact fun _ => rfl
  · intro other _ on_board open_ _
    by_cases own : other.id = id
    · exact .inr (by simp [own])
    · rw [if_neg (by simpa using own)] at on_board open_
      exact .inl (by simp [on_board, open_, Ne.symm own])

/-- A vehicle carries no more after an update that puts no order on it that was not open there. -/
theorem currentLoad_le_of_covered {chosen : DispatchOrder → Bool}
    {change : DispatchOrder → DispatchOrder} {keeps : ∀ order : DispatchOrder, (change order).id = order.id}
    {later : Board} (written : later.orders = board.orders.updateWhere chosen change keeps)
    (same : ∀ order, (change order).weightKg = order.weightKg)
    (covered : ∀ order ∈ board.orders.rows, chosen order = true →
      (change order).vehicleId = some vehicleId → (change order).isOpen = true →
        order.vehicleId = some vehicleId ∧ order.isOpen = true) :
    later.currentLoad vehicleId left_out ≤ board.currentLoad vehicleId left_out := by
  -- The cover has one part here, and the other part is empty.
  have nothing : totalWeight (board.orders.rows.filter fun _ => false) = 0 := by
    rw [List.filter_false]
    rfl
  rw [← add_zero (board.currentLoad vehicleId left_out), ← nothing]
  apply currentLoad_updateWhere_le written same
  intro order member on_board open_ counted
  refine .inl ?_
  by_cases picked : chosen order = true
  · rw [if_pos picked] at on_board open_
    obtain ⟨was_on_board, was_open⟩ := covered order member picked on_board open_
    simp [was_on_board, was_open, counted]
  · rw [if_neg picked] at on_board open_
    simp [on_board, open_, counted]

/-- The orders waiting under some ids are the same after an update of others. -/
theorem pendingAmong_updateWhere {orderIds : List Nat} {chosen : DispatchOrder → Bool}
    {change : DispatchOrder → DispatchOrder} {keeps : ∀ order : DispatchOrder, (change order).id = order.id}
    {later : Board} (written : later.orders = board.orders.updateWhere chosen change keeps)
    (apart : ∀ order ∈ board.orders.rows, chosen order = true → order.id ∉ orderIds) :
    later.pendingAmong orderIds = board.pendingAmong orderIds := by
  unfold Board.pendingAmong
  rw [written]
  have kept : ∀ order ∈ board.orders.rows, orderIds.contains order.id = true →
      (if chosen order then change order else order) = order := by
    intro order member asked
    rw [if_neg fun picked => apart order member picked (List.contains_iff_mem.mp asked)]
  have same_id : ∀ order, (if chosen order then change order else order).id = order.id := by
    intro order
    split
    · exact keeps order
    · rfl
  -- The rows that are asked for were not chosen, and the rest are not asked for afterwards either.
  unfold Table.updateWhere
  rw [List.filter_map]
  have tests : (board.orders.rows.filter ((fun order => orderIds.contains order.id &&
      decide (order.status = .pending)) ∘ fun order => if chosen order then change order else order)) =
      board.orders.rows.filter fun order => orderIds.contains order.id && order.status = .pending := by
    apply List.filter_congr
    intro order member
    show (orderIds.contains (if chosen order then change order else order).id &&
      decide ((if chosen order then change order else order).status = .pending)) = _
    rw [same_id]
    cases asked : orderIds.contains order.id with
    | false => rfl
    | true => rw [kept order member asked]
  rw [tests]
  refine (List.map_congr_left fun order member => ?_).trans (List.map_id _)
  obtain ⟨listed, passes⟩ := List.mem_filter.mp member
  exact kept order listed (by simp only [Bool.and_eq_true] at passes; exact passes.1)

end Freight.Dispatch
