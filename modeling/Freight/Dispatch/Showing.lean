import Freight.Dispatch.LiveBoard
import Freight.Dispatch.TripRuns

/-! What a live board shows of each order, and what it ought to show. -/

namespace Freight.Dispatch

variable {cfg : DispatchConfig} {board later : Board} {live : LiveBoard} {id : Nat}

/-- What is shown of one order: how often among those that wait, and with whom among those in flight. -/
@[ext] structure Showing where
  waiting : Nat
  drivers : List (Option String)
  deriving DecidableEq

/-- What a live board shows of an order. -/
def LiveBoard.showing (live : LiveBoard) (id : Nat) : Showing where
  waiting := (live.activeOrders.filter fun row => row.id = id).length
  drivers := (live.inFlightOrders.filter fun row => row.id = id).map ListedOrder.assignedTo

/-- What ought to be shown of an order. -/
def DispatchOrder.due (order : DispatchOrder) : Showing where
  waiting := if order.status = .pending then 1 else 0
  drivers := if order.status = .assigned then [order.assignedTo] else []

/-- Nothing is shown. -/
def Showing.nothing : Showing := ⟨0, []⟩

/-- What ought to be shown under an id. -/
def Board.due (board : Board) (id : Nat) : Showing := ((board.order id).map DispatchOrder.due).getD .nothing

/-- What becomes of what is shown of an order when an event is heard. -/
def Showing.heard (id : Nat) (shown : Showing) : SocketEvent → Showing
  | .orderCreated order => if order.id = id then { shown with waiting := shown.waiting + 1 } else shown
  | .orderDispatched driverName manifest =>
    -- A dispatched order leaves the one list and comes on the other.
    { waiting := if (manifest.map ListedOrder.id).contains id then 0 else shown.waiting
      drivers := ((manifest.filter fun order => order.id = id).map fun _ => some driverName) ++
        shown.drivers }
  | .orderReassigned orderId driverName =>
    if orderId = id then { shown with drivers := shown.drivers.map fun _ => some driverName } else shown
  | .orderUnassigned orderId => if orderId = id then { shown with drivers := [] } else shown
  | .orderStatusUpdated orderId status =>
    -- Any status but ASSIGNED takes it out of flight.
    if orderId = id ∧ status ≠ .assigned then { shown with drivers := [] } else shown
  | .orderOffered _ | .orderOfferDeclined _ _ | .tripUpdated _ => shown

/-- Taking out the rows of some ids leaves those of every other. -/
theorem filter_without (rows : List ListedOrder) (gone : Nat → Bool) (id : Nat) :
    ((rows.filter fun row => !gone row.id).filter fun row => row.id = id) =
      if gone id then [] else rows.filter fun row => row.id = id := by
  rw [List.filter_filter]
  split
  · -- The id is one of those taken out, so none of its rows is left.
    rename_i out
    apply List.filter_eq_nil_iff.mpr
    intro row _ both
    simp only [Bool.and_eq_true, decide_eq_true_eq, Bool.not_eq_true'] at both
    rw [both.1, out] at both
    cases both.2
  · rename_i stays
    apply List.filter_congr
    intro row _
    by_cases own : row.id = id
    · rw [own, Bool.eq_false_of_not_eq_true stays]
      simp
    · simp [own]

/-- Every handler treats the rows of each order by themselves. -/
theorem showing_hear (live : LiveBoard) (event : SocketEvent) (id : Nat) :
    (live.hear event).showing id = (live.showing id).heard id event := by
  cases event with
  | orderCreated order =>
    simp only [LiveBoard.hear, LiveBoard.showing, Showing.heard, List.filter_cons]
    by_cases own : order.id = id <;> simp [own]
  | orderDispatched driverName manifest =>
    simp only [LiveBoard.hear, LiveBoard.showing, Showing.heard]
    rw [filter_without _ fun other => (manifest.map ListedOrder.id).contains other]
    congr 1
    · split <;> rfl
    · -- What is put in front of the feed comes from the manifest, in its order.
      rw [List.filter_append, List.map_append, List.filter_map, List.map_map]
      rfl
  | orderReassigned orderId driverName =>
    simp only [LiveBoard.hear, LiveBoard.showing, Showing.heard, List.filter_map, List.map_map]
    -- A row keeps its id, whether it is the one or not.
    have kept : ((fun row : ListedOrder => decide (row.id = id)) ∘ fun row =>
        if row.id = orderId then { row with assignedTo := some driverName } else row) =
        fun row => decide (row.id = id) := by
      funext row
      simp only [Function.comp_apply]
      split <;> rfl
    rw [kept]
    by_cases own : orderId = id
    · rw [if_pos own]
      congr 1
      apply List.map_congr_left
      intro row member
      have its : row.id = orderId := (of_decide_eq_true (List.mem_filter.mp member).2).trans own.symm
      simp [its]
    · rw [if_neg own]
      congr 1
      apply List.map_congr_left
      intro row member
      have its : row.id ≠ orderId := fun same =>
        own (same.symm.trans (of_decide_eq_true (List.mem_filter.mp member).2))
      simp [its]
  | orderUnassigned orderId =>
    simp only [LiveBoard.hear, LiveBoard.showing, Showing.heard, ne_eq, decide_not]
    rw [filter_without _ fun other => other = orderId]
    by_cases own : orderId = id
    · simp [own]
    · simp [own, Ne.symm own]
  | orderStatusUpdated orderId status =>
    simp only [LiveBoard.hear, LiveBoard.showing, Showing.heard, ne_eq, decide_not]
    by_cases assigned : status = .assigned
    · simp [assigned]
    · simp only [assigned, not_false_eq_true, if_true, and_true]
      rw [filter_without _ fun other => other = orderId]
      by_cases own : orderId = id
      · simp [own]
      · simp [own, Ne.symm own]
  | orderOffered | orderOfferDeclined | tripUpdated => rfl

/-- So does the whole of what is sent for a request. -/
theorem showing_foldl (live : LiveBoard) (events : List SocketEvent) (id : Nat) :
    (events.foldl LiveBoard.hear live).showing id =
      events.foldl (Showing.heard id) (live.showing id) := by
  -- One event after another.
  induction events generalizing live with
  | nil => rfl
  | cons event rest ih => rw [List.foldl_cons, List.foldl_cons, ih, showing_hear]

/-- The live board shows what there is when it shows of each order what is due. -/
theorem mirrors_iff {watched : Watched} :
    watched.Mirrors ↔ ∀ id, watched.live.showing id = watched.board.due id := by
  constructor
  -- Of each order the two lists are told apart by its status.
  · intro mirrors id
    have active := mirrors.active id
    have inFlight := mirrors.inFlight id
    unfold Board.statusOf at active
    unfold LiveBoard.showing Board.due
    rw [active, inFlight]
    cases watched.board.order id with
    | none => rfl
    | some order =>
      simp only [Option.map_some, Option.getD_some, DispatchOrder.due, Option.some.injEq,
        Option.toList_some, List.filter_cons, List.filter_nil]
      congr 1
      by_cases assigned : order.status = .assigned <;> simp [assigned]
  -- And what is due says of each list what is on it.
  · intro shows
    have active : ∀ id, (watched.live.activeOrders.filter fun row => row.id = id).length =
        (watched.board.due id).waiting := fun id => congrArg Showing.waiting (shows id)
    have inFlight : ∀ id, ((watched.live.inFlightOrders.filter fun row => row.id = id).map
        ListedOrder.assignedTo) = (watched.board.due id).drivers :=
      fun id => congrArg Showing.drivers (shows id)
    refine ⟨fun id => (active id).trans ?_, fun id => (inFlight id).trans ?_, ?_⟩
    · unfold Board.due Board.statusOf
      cases watched.board.order id with
      | none => rfl
      | some order => simp [DispatchOrder.due]
    · unfold Board.due
      cases watched.board.order id with
      | none => rfl
      | some order => by_cases assigned : order.status = .assigned <;>
          simp [DispatchOrder.due, assigned]
    · intro waiting listed going also same
      -- An order that is shown waits, and one in flight is assigned.
      have waits : 0 < (watched.board.due waiting.id).waiting := by
        rw [← active]
        exact List.length_pos_of_mem (List.mem_filter.mpr ⟨listed, by simp⟩)
      have flies : (watched.board.due waiting.id).drivers ≠ [] := by
        rw [← inFlight]
        exact List.ne_nil_of_mem (List.mem_map_of_mem (List.mem_filter.mpr ⟨also, by simp [same]⟩))
      revert waits flies
      unfold Board.due
      cases watched.board.order waiting.id with
      | none => simp [Showing.nothing]
      | some order =>
        simp only [Option.map_some, Option.getD_some, DispatchOrder.due]
        split
        · rename_i pending
          simp [pending]
        · simp

/-- What has just been fetched shows what there is. -/
theorem mirrors_fetched (board : Board) : (Watched.fetched board).Mirrors := by
  refine mirrors_iff.mpr fun id => ?_
  -- A table holds one row under an id, so each feed holds one at most.
  have under : ∀ status : OrderStatus,
      ((board.orders.rows.filter fun order => order.status = status).filter fun order => order.id = id) =
        (board.order id).toList.filter fun order => order.status = status := by
    intro status
    rw [List.filter_comm]
    exact congrArg _ (board.orders.filter_key id)
  have own : ((fun row : ListedOrder => decide (row.id = id)) ∘ DispatchOrder.returned) =
      fun order => decide (order.id = id) := rfl
  have theirs : ((fun row : ListedOrder => decide (row.id = id)) ∘ DispatchOrder.inFlight) =
      fun order => decide (order.id = id) := rfl
  simp only [Watched.fetched, LiveBoard.fetched, LiveBoard.showing, List.filter_map, own, theirs, under,
    List.length_map, List.map_map]
  unfold Board.due
  cases board.order id with
  | none => rfl
  | some order =>
    simp only [Option.toList_some, List.filter_cons, List.filter_nil, Option.map_some,
      Option.getD_some, DispatchOrder.due]
    by_cases pending : order.status = .pending
    · simp [pending]
    · by_cases assigned : order.status = .assigned <;>
        simp [pending, assigned, DispatchOrder.inFlight]

/-- After the event each order is shown as it ought to be, if each was before. -/
def Keeps (cfg : DispatchConfig) (board : Board) (event : DispatchEvent) : Prop :=
  ∀ id, (emitted cfg board event).foldl (Showing.heard id) (board.due id) = (step cfg board event).due id

/-- A board that mirrors the server goes on doing so exactly when the event keeps every order shown. -/
theorem mirrors_step_iff {watched : Watched} {event : DispatchEvent} (mirrors : watched.Mirrors) :
    (watched.step cfg event).Mirrors ↔ Keeps cfg watched.board event := by
  -- Order by order: what the board shows after hearing the event, against what is due then.
  rw [mirrors_iff]
  refine forall_congr' fun id => ?_
  unfold Watched.step
  rw [showing_foldl, mirrors_iff.mp mirrors id]

/-- A refused request sends nothing and changes nothing. -/
theorem keeps_announced {event : DispatchEvent} {result : Except Failure Board}
    {events : Board → List SocketEvent} (emits : emitted cfg board event = announced result events)
    (steps : step cfg board event = committed board result) :
    Keeps cfg board event ↔ ∀ written, result = .ok written →
      ∀ id, (events written).foldl (Showing.heard id) (board.due id) = written.due id := by
  unfold Keeps
  rw [emits, steps]
  -- What is sent depends on the board that was written.
  cases result with
  | ok written =>
    constructor
    · intro keeps other done
      cases done
      exact keeps
    · exact fun each => each written rfl
  | error failure => exact ⟨fun _ _ done => (nomatch done), fun _ _ => rfl⟩

/-- Where no order is written, nothing else is due. -/
theorem due_same (same : later.orders = board.orders) (id : Nat) : later.due id = board.due id := by
  -- The row is found in the same table.
  unfold Board.due Board.order
  rw [same]

/-- What is due after an UPDATE, order by order. -/
theorem due_written {chosen : DispatchOrder → Bool} {change : DispatchOrder → DispatchOrder}
    (written : later.orders.rows = board.orders.rows.map fun order =>
      if chosen order then change order else order)
    (keeps : ∀ order : DispatchOrder, (change order).id = order.id) (id : Nat) :
    later.due id = ((board.order id).map fun order =>
      (if chosen order then change order else order).due).getD .nothing := by
  -- What is due is read off the row that the UPDATE leaves.
  unfold Board.due
  rw [order_of_written written keeps id, Option.map_map]
  rfl

/-- What is due of an order that is there. -/
theorem due_of_found {order : DispatchOrder} (found : board.order id = some order) :
    board.due id = order.due := by
  -- What is due is read off that row.
  unfold Board.due
  rw [found]
  rfl

/-- The row under an id has that id. -/
theorem id_of_found {order : DispatchOrder} (found : board.order id = some order) : order.id = id :=
  (Table.find?_eq_some.mp found).2

/-- Of the rows that are handed back, one is an order's, if it was asked for. -/
theorem returned_filter (board : Board) (ids : List Nat) (id : Nat) :
    ((board.returned ids).filter fun row => row.id = id) =
      if ids.contains id then (board.order id).toList.map DispatchOrder.returned else [] := by
  -- No two rows are under one id, so there is one at most to choose.
  have own : ((fun row : ListedOrder => decide (row.id = id)) ∘ DispatchOrder.returned) =
      fun order => decide (order.id = id) := rfl
  unfold Board.returned
  rw [List.filter_map, own, List.filter_comm, board.orders.filter_key id]
  show (List.filter _ (board.order id).toList).map _ = _
  cases found : board.order id with
  | none => simp
  | some order =>
    rw [Option.toList_some, List.filter_cons, id_of_found found]
    split <;> rfl

/-- Asked for by its id alone, an order is handed back by itself. -/
theorem returned_singleton (board : Board) (id : Nat) :
    board.returned [id] = (board.order id).toList.map DispatchOrder.returned := by
  -- Every row that is handed back has the id that was asked for.
  have all : ((board.returned [id]).filter fun row => row.id = id) = board.returned [id] := by
    apply List.filter_eq_self.mpr
    intro row listed
    obtain ⟨order, among, rfl⟩ := List.mem_map.mp listed
    have own : order.id = id := by simpa using (List.mem_filter.mp among).2
    exact decide_eq_true own
  rw [← all, returned_filter]
  simp

section Due

variable {order : DispatchOrder}

/-- An order that waits is due once among those that wait. -/
theorem due_pending (was : order.status = .pending) : order.due = ⟨1, []⟩ := by
  -- An order is shown by its status alone.
  simp [DispatchOrder.due, was]

/-- An assigned order is due in flight, with its driver. -/
theorem due_assigned (was : order.status = .assigned) : order.due = ⟨0, [order.assignedTo]⟩ := by
  -- In flight means ASSIGNED here.
  simp [DispatchOrder.due, was]

/-- Any other order is due nowhere. -/
theorem due_elsewhere (waits : order.status ≠ .pending) (flies : order.status ≠ .assigned) :
    order.due = .nothing := by
  -- The other statuses are on neither list.
  simp [DispatchOrder.due, waits, flies, Showing.nothing]

end Due

/-- After a change to one order, what is sent about it alone has to make the difference. -/
theorem keeps_change_iff {target : Nat} {order : DispatchOrder} {change : DispatchOrder → DispatchOrder}
    {sent : List SocketEvent} (found : board.order target = some order)
    (written : ∀ id, later.order id =
      if id = target then (board.order id).map change else board.order id)
    (about : ∀ id, id ≠ target → ∀ event ∈ sent, ∀ shown : Showing, shown.heard id event = shown) :
    (∀ id, sent.foldl (Showing.heard id) (board.due id) = later.due id) ↔
      sent.foldl (Showing.heard target) order.due = (change order).due := by
  -- The order is due as it is after the change.
  have there : later.due target = (change order).due := by
    unfold Board.due
    rw [written, if_pos rfl, found]
    rfl
  constructor
  · intro each
    rw [← there, ← due_of_found found]
    exact each target
  · intro told id
    by_cases own : id = target
    · rw [own, there, due_of_found found]
      exact told
    · -- No event is about any other order, and no other order is written.
      have silent : ∀ (events : List SocketEvent) (shown : Showing), events ⊆ sent →
          events.foldl (Showing.heard id) shown = shown := by
        intro events shown within
        induction events with
        | nil => rfl
        | cons event rest ih =>
          rw [List.foldl_cons, about id own event (within List.mem_cons_self)]
          exact ih fun _ member => within (List.mem_cons_of_mem _ member)
      rw [silent sent _ (List.Subset.refl _)]
      unfold Board.due
      rw [written, if_neg own]

/-- So it is where the change is an UPDATE of the one row. -/
theorem keeps_changeOrder_iff {target : Nat} {order : DispatchOrder}
    {change : DispatchOrder → DispatchOrder} (keeps : ∀ order, (change order).id = order.id)
    {sent : List SocketEvent} (found : board.order target = some order)
    (written : later.orders = (board.changeOrder target change keeps).orders)
    (about : ∀ id, id ≠ target → ∀ event ∈ sent, ∀ shown : Showing, shown.heard id event = shown) :
    (∀ id, sent.foldl (Showing.heard id) (board.due id) = later.due id) ↔
      sent.foldl (Showing.heard target) order.due = (change order).due :=
  -- Under other ids the row is found as it was.
  keeps_change_iff found (fun id => (congrArg (fun orders => orders.find? id) written).trans
    (board.order_changeOrder target change keeps id)) about

/-- An UPDATE that moves no order leaves what is due. -/
theorem due_unmoved {chosen : DispatchOrder → Bool} {change : DispatchOrder → DispatchOrder}
    (written : later.orders.rows = board.orders.rows.map fun order =>
      if chosen order then change order else order)
    (keeps : ∀ order : DispatchOrder, (change order).id = order.id)
    (same : ∀ order, (change order).due = order.due) (id : Nat) : later.due id = board.due id := by
  -- The row is found as it was, or rewritten to one that is due alike.
  rw [due_written written keeps]
  unfold Board.due
  congr 1
  cases board.order id with
  | none => rfl
  | some order =>
    rw [Option.map_some, Option.map_some]
    split
    · rw [same]
    · rfl

end Freight.Dispatch
