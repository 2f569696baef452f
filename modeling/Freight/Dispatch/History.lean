import Freight.Dispatch.Changes
import Freight.Dispatch.Verified
import Freight.Library.Trail

/-! The status log of an order, and the writes to its status that are left out of it. -/

namespace Freight.Dispatch

variable {cfg : DispatchConfig} {board later : Board} {id : Nat}

/-- The entries about one order, in the order they were made. -/
def Board.historyOf (board : Board) (id : Nat) : List StatusLog :=
  board.logs.filter fun log => log.orderId = id

/-- The log tells the whole story of each order: from PENDING on, without a gap, to where it stands. -/
def Board.Told (board : Board) : Prop :=
  ∀ id order, board.order id = some order →
    Trail StatusLog.previousStatus StatusLog.newStatus .pending (board.historyOf id) order.status

/-- `REFERENCES orders(id)`: an entry is about an order that exists. -/
def Board.Referenced (board : Board) : Prop :=
  ∀ log ∈ board.logs, ∃ order, board.order log.orderId = some order

/-- The board, and for each sweep that is under way the orders it has yet to log. -/
structure Story where
  board : Board
  sweeps : List (List Nat) := []

/-- What can happen to the story of an order. -/
inductive StoryEvent where
  /-- A request. The sweep is no request, and comes in its own pieces. -/
  | request (event : DispatchEvent) (apart : event ≠ .expireJobOffers)
  | forceOrderStatus (requester : Requester) (id : Nat) (status : Option OrderStatus) (reason : String)
  /-- The sweep's UPDATE. -/
  | expireOffers
  /-- The next INSERT of one of the sweeps. -/
  | logExpired (sweep : Nat)
  /-- One of the sweeps dies between two of its statements. -/
  | crash (sweep : Nat)

/-- An offer taken back is for the same order. -/
theorem DispatchOrder.released_id (order : DispatchOrder) : order.released.id = order.id := rfl

/-- The UPDATE that puts lapsed offers back on the board. -/
def Board.offersExpired (board : Board) : Board :=
  { board with
    orders := board.orders.updateWhere board.lapsed DispatchOrder.released DispatchOrder.released_id }

/-- One event of the story, each committed on its own. -/
def storyStep (cfg : DispatchConfig) (story : Story) : StoryEvent → Story
  | .request event _ => { story with board := step cfg story.board event }
  | .forceOrderStatus requester id status reason =>
    match forceOrderStatus story.board requester id status reason with
    | .ok written => { story with board := written }
    | .error _ => story
  -- The sweep's UPDATE comes first, and its log rows one by one behind it.
  | .expireOffers => {
      board := story.board.offersExpired
      sweeps := story.sweeps ++
        [(story.board.orders.rows.filter story.board.lapsed).map fun order => order.id] }
  | .logExpired sweep =>
    match story.sweeps[sweep]? with
    | some (id :: rest) => {
        board := story.board.logged id .offered .pending "offer-expiry"
        sweeps := story.sweeps.set sweep rest }
    | _ => story
  -- What is not logged by then is logged by nobody.
  | .crash sweep => { story with sweeps := story.sweeps.set sweep [] }

/-- The checks of `offerOrders`. -/
structure Offerable (board : Board) (requester : Requester) (orderIds : List Nat)
    (driverName : String) : Prop where
  allowed : requester.role ∈ dispatchRoles
  some_ : orderIds ≠ []
  registered : ∃ driver, board.registeredDriver driverName = some driver
  undeclined : ∀ decline ∈ board.declines,
    decline.driverUsername = driverName → decline.orderId ∉ orderIds
  waiting : (board.pendingAmong orderIds).length = orderIds.length
  placed : unplacedAmong (board.pendingAmong orderIds) = []

/-- The checks of `createTrip`. -/
structure Plannable (board : Board) (requester : Requester) (orderIds : List Nat)
    (driver : Option String) (vehicle : Option Nat) : Prop where
  allowed : requester.role ∈ dispatchRoles
  some_ : orderIds ≠ []
  distinct : orderIds.Nodup
  able : driverAssignmentProblem board driver = none
  found : (board.orders.rows.filter fun order => orderIds.contains order.id).length = orderIds.length
  plannable : ∀ order ∈ board.orders.rows, order.id ∈ orderIds →
    order.status ∈ plannableOrderStatuses
  known : board.knows driver vehicle = true
  unplanned : ∀ order ∈ board.orders.rows, order.id ∈ orderIds →
    ∀ draft ∈ order.draft, board.alreadyPlanned draft = false

/-- The checks of `updateTrip`, on the run as it is. -/
structure Changeable (board : Board) (requester : Requester) (trip : Trip)
    (driver : Option (Option String)) (vehicle : Option Nat) (status : Option TripStatus) : Prop where
  allowed : requester.role ∈ dispatchRoles
  unfinished : status ≠ some .completed ∧ trip.status ≠ .completed
  able : driver.isSome || status = some .active →
    driverAssignmentProblem board (driver.getD trip.driverUsername) = none
  known : board.knows (driver.getD trip.driverUsername) vehicle = true
  free : status.getD trip.status = .active →
    board.driverBusy trip.id (driver.getD trip.driverUsername) = false

/-- No write to a status is left out of the log. -/
def Tells (cfg : DispatchConfig) (story : Story) : StoryEvent → Prop
  -- An offer is never logged.
  | .request (.offerOrders requester orderIds driverName _) _ =>
    ¬ Offerable story.board requester orderIds driverName
  -- A run that gets a driver assigns the orders on it that wait, and logs none of them.
  | .request (.createTrip requester orderIds driver vehicle) _ =>
    Plannable story.board requester orderIds driver vehicle → Payment.present driver ≠ none →
      ∀ order ∈ story.board.orders.rows, order.id ∈ orderIds → order.status ≠ .pending
  | .request (.updateTrip requester tripId driver vehicle status) _ =>
    ∀ trip, story.board.trip tripId = some trip →
      Changeable story.board requester trip driver vehicle status →
      Payment.present (driver.getD trip.driverUsername) ≠ none →
      ∀ order ∈ story.board.orders.rows, story.board.onTrip tripId order = true →
        order.status ≠ .pending
  -- An arrival refused to the desk has been written, and may be committed by somebody else.
  | .request (.updateOrderStatus requester id status _ committedLater) _ =>
    committedLater = true → ∀ order moved,
      statusChange cfg story.board requester id status = .ok (order, moved) →
        requester.role = .driver ∨ moved ∉ arrivalStatuses
  -- Between the sweep's UPDATE and its last INSERT, lapsed offers are back and not logged.
  | .expireOffers => ∀ order ∈ story.board.orders.rows, story.board.lapsed order = false
  | _ => True

/-- What is written about an order is what is done to its status. -/
structure Logs (board later : Board) (id : Nat) : Prop where
  /-- The entries that are added lead from the status it had to the one it has. -/
  found : ∀ order, board.order id = some order → ∃ next added, later.order id = some next ∧
    later.historyOf id = board.historyOf id ++ added ∧
    Trail StatusLog.previousStatus StatusLog.newStatus order.status added next.status
  /-- An order that was not there before waits for a driver, and nothing is written about it. -/
  absent : board.order id = none → later.historyOf id = board.historyOf id ∧
    ∀ next, later.order id = some next → next.status = .pending

/-- What was told is told still, when everything done is logged. -/
theorem told_of_logs (logs : ∀ id, Logs board later id) (told : board.Told)
    (referenced : board.Referenced) : later.Told ∧ later.Referenced := by
  -- Nothing was ever written about an order that does not exist.
  have unwritten : ∀ id, board.order id = none → board.historyOf id = [] := by
    intro id absent
    refine List.filter_eq_nil_iff.mpr fun log member own => ?_
    obtain ⟨order, found⟩ := referenced log member
    rw [of_decide_eq_true own, absent] at found
    cases found
  constructor
  · intro id next after
    cases before : board.order id with
    | some order =>
      obtain ⟨moved, added, there, history, leads⟩ := (logs id).found order before
      rw [history]
      cases there.symm.trans after
      exact trail_append.mpr ⟨_, told id order before, leads⟩
    | none =>
      obtain ⟨history, waits⟩ := (logs id).absent before
      rw [history, unwritten id before, waits next after]
      rfl
  · intro log member
    cases before : board.order log.orderId with
    | some order =>
      obtain ⟨moved, added, there, -⟩ := (logs log.orderId).found order before
      exact ⟨moved, there⟩
    | none =>
      have written : log ∈ later.historyOf log.orderId :=
        List.mem_filter.mpr ⟨member, decide_eq_true rfl⟩
      rw [((logs log.orderId).absent before).1, unwritten _ before] at written
      cases written

/-- A status that changes with nothing written breaks the story off. -/
theorem not_told {order next : DispatchOrder} (told : board.Told)
    (before : board.order id = some order) (after : later.order id = some next)
    (quiet : later.logs = board.logs) (differs : next.status ≠ order.status) : ¬ later.Told := by
  intro still
  have history : later.historyOf id = board.historyOf id := by
    unfold Board.historyOf
    rw [quiet]
  -- The same entries cannot lead to two statuses.
  have leads := still id next after
  rw [history] at leads
  exact differs (leads.unique (told id order before))

/-- So an UPDATE with nothing written about it moves no order, if the story is still told. -/
theorem unmoved_of_told {chosen : DispatchOrder → Bool} {change : DispatchOrder → DispatchOrder}
    {order : DispatchOrder} (told : board.Told) (still : later.Told)
    (same : later.orders.rows = board.orders.rows.map fun order =>
      if chosen order then change order else order)
    (quiet : later.logs = board.logs) (member : order ∈ board.orders.rows)
    (picked : chosen order = true)
    (keeps : ∀ order : DispatchOrder, (change order).id = order.id) :
    (change order).status = order.status := by
  -- If it moved one, the log would have to say so, and it says nothing new.
  have before : board.order order.id = some order := Table.find?_eq_some.mpr ⟨member, rfl⟩
  have after := order_of_written same keeps order.id
  rw [before, Option.map_some, if_pos picked] at after
  by_contra moves
  exact not_told told before after quiet moves still

/-- An event that writes neither orders nor entries. -/
theorem logs_same (same : later.orders = board.orders) (quiet : later.logs = board.logs) :
    Logs board later id := by
  -- The order and its history are looked up where nothing was written.
  have found : later.order id = board.order id := by
    unfold Board.order
    rw [same]
  have history : later.historyOf id = board.historyOf id := by
    unfold Board.historyOf
    rw [quiet]
  refine ⟨fun order before => ⟨order, [], found.trans before, by simp [history], rfl⟩,
    fun absent => ⟨history, fun next after => ?_⟩⟩
  rw [found, absent] at after
  cases after

/-- An UPDATE with an entry for each order it moves. -/
theorem logs_updateWhere {chosen : DispatchOrder → Bool} {change : DispatchOrder → DispatchOrder}
    {added : List StatusLog}
    (same : later.orders.rows = board.orders.rows.map fun order =>
      if chosen order then change order else order)
    (written : later.logs = board.logs ++ added)
    (moved : ∀ order, board.order id = some order →
      Trail StatusLog.previousStatus StatusLog.newStatus order.status
        (added.filter fun log => log.orderId = id)
        (if chosen order then change order else order).status)
    (about : ∀ log ∈ added, log.orderId = id → ∃ order, board.order id = some order)
    (keeps : ∀ order : DispatchOrder, (change order).id = order.id) : Logs board later id := by
  have found := order_of_written same keeps id
  -- The entries about this order grow by those that were written about it.
  have history : later.historyOf id =
      board.historyOf id ++ added.filter fun log => log.orderId = id := by
    unfold Board.historyOf
    rw [written, List.filter_append]
  refine ⟨fun order before => ⟨_, _, by rw [found, before, Option.map_some], history,
    moved order before⟩, fun absent => ⟨?_, fun next after => ?_⟩⟩
  · -- No entry is written about an order that is not there.
    rw [history, List.filter_eq_nil_iff.mpr, List.append_nil]
    intro log member own
    obtain ⟨order, there⟩ := about log member (of_decide_eq_true own)
    rw [absent] at there
    cases there
  · -- Nor does writing bring one about.
    rw [found, absent] at after
    cases after

/-- An UPDATE that moves no order needs no entry. -/
theorem logs_unmoved {chosen : DispatchOrder → Bool} {change : DispatchOrder → DispatchOrder}
    (same : later.orders.rows = board.orders.rows.map fun order =>
      if chosen order then change order else order)
    (quiet : later.logs = board.logs)
    (stays : ∀ order, board.order id = some order → chosen order = true →
      (change order).status = order.status)
    (keeps : ∀ order : DispatchOrder, (change order).id = order.id) : Logs board later id := by
  -- With no entry, a row has to keep the status it had.
  refine logs_updateWhere same (quiet.trans (List.append_nil _).symm) (fun order before => ?_)
    (fun _ nothing => absurd nothing List.not_mem_nil) keeps
  split
  · exact (stays order before ‹_›).symm
  · rfl

/-- A change to one order, with an entry that says what it did. -/
theorem logs_logged {target : Nat} {change : DispatchOrder → DispatchOrder}
    {keeps : ∀ order : DispatchOrder, (change order).id = order.id} {order : DispatchOrder}
    {previous status : OrderStatus} {changedBy : String}
    (there : board.order target = some order) (was : order.status = previous)
    (moved : (change order).status = status) :
    Logs board ((board.changeOrder target change keeps).logged target previous status changedBy) id := by
  refine @logs_updateWhere _ _ _ (fun row => row.id = target) change _ rfl rfl
    (fun other before => ?_) ?_ keeps
  · -- The row found under the id is the one that is changed, if the id is the target.
    have own := (Table.find?_eq_some.mp before).2
    by_cases target_is : target = id
    · subst target_is
      obtain rfl := Option.some.inj (before.symm.trans there)
      simp [own, moved, was, Trail]
    · have other_id : other.id ≠ target := fun same => target_is (same.symm.trans own)
      simp [target_is, other_id, Trail]
  · -- The one entry that is written is about the target.
    rintro log member rfl
    rw [List.mem_singleton.mp member]
    exact ⟨order, there⟩

/-- Only orders and entries matter. -/
theorem Logs.congr {before after : Board} (logs : Logs before after id)
    (orders : board.orders = before.orders) (entries : board.logs = before.logs)
    (written : later.orders = after.orders) (added : later.logs = after.logs) :
    Logs board later id := by
  -- An order is looked up in its table alone, and its entries in the log alone.
  have found : board.order id = before.order id ∧ later.order id = after.order id := by
    unfold Board.order
    rw [orders, written]
    exact ⟨rfl, rfl⟩
  have history : board.historyOf id = before.historyOf id ∧
      later.historyOf id = after.historyOf id := by
    unfold Board.historyOf
    rw [entries, added]
    exact ⟨rfl, rfl⟩
  exact ⟨by rw [found.1, found.2, history.1, history.2]; exact logs.found,
    by rw [found.1, found.2, history.1, history.2]; exact logs.absent⟩

/-- A new order waits, and nothing is written about it. -/
theorem logs_insert (row : Nat → DispatchOrder) (own : ∀ serial, (row serial).id = serial)
    (same : later.orders = board.orders.insert row own) (quiet : later.logs = board.logs)
    (waits : (row board.orders.nextSerial).status = .pending) : Logs board later id := by
  have history : later.historyOf id = board.historyOf id := by
    unfold Board.historyOf
    rw [quiet]
  refine ⟨fun order before => ⟨order, [], ?_, by simp [history], rfl⟩,
    fun absent => ⟨history, fun next after => ?_⟩⟩
  · -- An order that was there is found still, with no entry more.
    unfold Board.order at before ⊢
    rw [same]
    exact Table.find?_insert_of_some before
  · unfold Board.order at absent after
    rw [same] at after
    -- One that is found only now is the new row.
    rcases Table.find?_insert_cases after with old | ⟨-, rfl⟩
    · rw [absent] at old
      cases old
    · exact waits

section Requests

variable {requester : Requester} {target : Nat} {driverName : Option String}

/-- A booking. -/
theorem createOrder_logs {request : NewOrder}
    (done : createOrder board requester request = .ok later) : Logs board later id := by
  -- The row is inserted with its first entry.
  obtain ⟨-, -, -, priced, -, rfl⟩ := createOrder_accepted.mp done
  exact logs_insert (request.row priced) (fun _ => rfl) rfl rfl rfl

/-- A customer's booking. -/
theorem publicCreateOrder_logs {request : NewBooking}
    (done : publicCreateOrder board request = .ok later) : Logs board later id := by
  -- The row is inserted with its first entry.
  obtain ⟨-, priced, -, rfl⟩ := publicCreateOrder_accepted.mp done
  exact logs_insert (request.row priced) (fun _ => rfl) rfl rfl rfl

/-- Repricing leaves the status alone. -/
theorem placed_status (order : Order) (pricing : Except PricingError Quote) :
    (order.placed pricing).status = order.status := by
  -- None of its branches writes the status.
  unfold Order.placed
  split
  · rfl
  · split <;> rfl

/-- A placement. -/
theorem placeOneOrder_logs {pickup delivery : Point} {pricing : Except PricingError Quote}
    (done : placeOneOrder board requester target pickup delivery pricing = .ok later) :
    Logs board later id := by
  -- A placement writes places and figures, and no status.
  obtain ⟨-, -, _, -, -, rfl⟩ := placeOneOrder_accepted.mp done
  exact logs_unmoved rfl rfl (fun order _ _ => placed_status _ _) fun _ => placed_id _ _

/-- An assignment writes an entry for each order of the bundle. -/
theorem assignOrderBundle_logs {orderIds : List Nat} {name : String}
    (done : assignOrderBundle cfg board requester orderIds name = .ok later) :
    Logs board later id := by
  obtain ⟨-, -, -, driver, -, vehicle, -, -, -, all, -, -, rfl⟩ := assignOrderBundle_accepted.mp done
  refine logs_updateWhere rfl rfl (fun order before => ?_) (fun log member own => ?_) fun _ => rfl
  · have own := (Table.find?_eq_some.mp before).2
    rw [List.filter_map]
    by_cases asked : id ∈ orderIds
    · -- The id was asked for once, so there is one entry about it, and the order was waiting.
      have once : orderIds.filter ((fun log => decide (log.orderId = id)) ∘ fun asked =>
          ({ orderId := asked, previousStatus := .pending, newStatus := .assigned
             changedBy := requester.username, changedAt := board.now } : StatusLog)) = [id] := by
        refine (List.filter_eq id).trans ?_
        rw [List.count_eq_one_of_mem (board.orders.nodup_of_length all) asked]
        rfl
      have contained : orderIds.contains order.id = true := by simpa [own] using asked
      rw [once, if_pos contained, pending_of_pendingAmong all before contained]
      exact ⟨rfl, rfl⟩
    · -- An order that was not asked for stays as it is, and no entry is about it.
      rw [if_neg (by simpa [own] using asked), List.filter_eq_nil_iff.mpr]
      · rfl
      · rintro other member same
        exact asked (of_decide_eq_true same ▸ member)
  · -- Whatever an entry is about was asked for, and everything asked for was found waiting.
    obtain ⟨asked, listed, rfl⟩ := List.mem_map.mp member
    obtain ⟨order, there, same, -⟩ := board.orders.passing_of_length all listed
    exact ⟨order, Table.find?_eq_some.mpr ⟨there, same.trans own⟩⟩

/-- A reassignment. -/
theorem reassignOrder_logs (done : reassignOrder cfg board requester target driverName = .ok later) :
    Logs board later id := by
  -- Either way the entry begins at the status the row was found in.
  obtain ⟨-, order, found, -, was, ⟨-, rfl⟩ | ⟨-, -, driver, -, vehicle, -, -, -, rfl⟩⟩ :=
    reassignOrder_accepted.mp done
  · exact logs_logged found was rfl
  · exact logs_logged found was was

/-- A status update that is made. -/
theorem updateOrderStatus_logs {asked : Option OrderStatus} {code : String}
    (done : updateOrderStatus cfg board requester target asked code = .ok later) :
    Logs board later id := by
  -- The entry is written beside the UPDATE, from the row that was checked.
  obtain ⟨order, status, passes, -, rfl⟩ := updateOrderStatus_accepted.mp done
  obtain ⟨rfl, found, allowed, moves⟩ := statusChange_ok passes
  exact logs_logged found rfl (congrArg Standing.status (standing_statusUpdated code moves))

/-- A confirmed delivery. -/
theorem confirmDelivery_logs {proof : DeliveryProof}
    (done : confirmDelivery cfg board requester target proof = .ok later) : Logs board later id := by
  -- The status and its entry are written together, and nothing else of the two.
  obtain ⟨_, -, order, found, -, -, rfl⟩ := confirmDelivery_accepted.mp done
  exact (logs_logged found rfl rfl).congr rfl rfl rfl rfl

/-- A wrong guess counted. -/
theorem afterRefusedProof_logs {failure : Failure} :
    Logs board (afterRefusedProof board target failure) id := by
  -- An attempt that is counted moves no order.
  unfold afterRefusedProof
  split
  · exact logs_unmoved rfl rfl (fun _ _ _ => rfl) fun _ => rfl
  · exact logs_same rfl rfl

/-- An accepted offer. -/
theorem acceptOffer_logs (done : acceptOffer board requester target = .ok later) :
    Logs board later id := by
  -- The status and its entry are written together.
  obtain ⟨-, order, found, ⟨⟨was, -⟩, -⟩, rfl⟩ := acceptOffer_accepted.mp done
  exact logs_logged found was rfl

/-- A declined offer. -/
theorem declineOffer_logs {reason : Option String}
    (done : declineOffer board requester target reason = .ok later) : Logs board later id := by
  -- The status and its entry are written together, and the offer is withdrawn beside them.
  obtain ⟨-, order, found, ⟨was, -⟩, rfl⟩ := declineOffer_accepted.mp done
  exact (logs_logged found was rfl).congr rfl rfl rfl rfl

/-- A status that is forced. -/
theorem forceOrderStatus_logs {asked : Option OrderStatus} {reason : String}
    (done : forceOrderStatus board requester target asked reason = .ok later) :
    Logs board later id := by
  -- The status and its entry are written together.
  obtain ⟨-, status, -, -, order, found, -, rfl⟩ := forceOrderStatus_accepted.mp done
  exact logs_logged found rfl rfl

/-- A stop that is done logs what it does to its order. -/
theorem completed_logs (stop : TripStop) (changedBy : String) :
    Logs board (board.completed stop changedBy) id := by
  -- Where the order is not there, or is in that status already, nothing is written.
  unfold Board.completed
  split
  · exact logs_same rfl rfl
  · rename_i order found
    simp only
    split
    · exact logs_same rfl rfl
    · exact logs_logged found rfl rfl

/-- Work on a run. -/
theorem updateStop_logs {stopId : Nat} {asked : Option StopStatus} {reason : Option String}
    (done : updateStop cfg board requester stopId asked reason = .ok later) :
    Logs board later id := by
  -- A stop that is not done writes no order.
  obtain ⟨stop, trip, status, -, orders, logs, -⟩ := updateStop_orders done
  by_cases is_done : status = .done
  · rw [if_pos is_done] at orders logs
    exact (completed_logs stop requester.username).congr rfl rfl orders logs
  · rw [if_neg is_done] at orders logs
    exact logs_same orders logs

/-- An offer is made exactly when it passes its checks, and moves every order it names. -/
theorem offerOrders_ok_iff {orderIds : List Nat} {name : String} {minutes : Option ℚ} :
    (∃ later, offerOrders board requester orderIds name minutes = .ok later) ↔
      Offerable board requester orderIds name := by
  simp only [offerOrders_accepted, Bool.not_eq_true', List.isEmpty_eq_false_iff, List.isEmpty_iff, List.contains_iff_mem, exists_eq',
    and_true, exists_and_left, exists_and_right]
  -- The one check that reads otherwise is that no order was declined, which the code asks of a list.
  constructor
  · rintro ⟨allowed, some_, registered, undeclined, waiting, placed⟩
    exact ⟨allowed, some_, registered, fun decline member his asked =>
      absurd (List.filter_eq_nil_iff.mp undeclined decline member) (by simp [his, asked]), waiting,
      placed⟩
  · rintro ⟨allowed, some_, registered, undeclined, waiting, placed⟩
    exact ⟨allowed, some_, registered, List.filter_eq_nil_iff.mpr fun decline member his => by
      simp only [Bool.and_eq_true, decide_eq_true_eq, List.contains_iff_mem] at his
      exact undeclined decline member his.1 his.2, waiting, placed⟩

/-- A run is planned exactly when it passes its checks. -/
theorem createTrip_ok_iff {orderIds : List Nat} {driver : Option String} {vehicle : Option Nat} :
    (∃ later, createTrip cfg board requester orderIds driver vehicle = .ok later) ↔
      Plannable board requester orderIds driver vehicle := by
  simp only [createTrip_accepted, Bool.not_eq_true', List.isEmpty_eq_false_iff, exists_eq', and_true, Option.map_eq_none_iff,
    List.find?_eq_none, List.mem_filter, mem_planned, List.contains_iff_mem, Bool.not_eq_true,
    exists_and_left]
  -- The code reads the orders it was given, and the statement asks about the board and the ids.
  constructor
  · rintro ⟨allowed, some_, distinct, able, found, plannable, known, unplanned⟩
    exact ⟨allowed, some_, distinct, able, found, fun order member asked => by
      simpa using plannable order ⟨member, asked⟩, known, fun order member asked draft drawn =>
        unplanned draft ⟨order, ⟨member, asked⟩, drawn⟩⟩
  · rintro ⟨allowed, some_, distinct, able, found, plannable, known, unplanned⟩
    exact ⟨allowed, some_, distinct, able, found, fun order listed => by
      simpa using plannable order listed.1 listed.2, known, fun draft drawn => by
        obtain ⟨order, listed, drawn⟩ := drawn
        exact unplanned order listed.1 listed.2 draft drawn⟩

/-- A run that is there is changed exactly when the change passes its checks. -/
theorem updateTrip_ok_iff {trip : Trip} {tripId : Nat} {driver : Option (Option String)}
    {vehicle : Option Nat} {status : Option TripStatus} (there : board.trip tripId = some trip) :
    (∃ later, updateTrip board requester tripId driver vehicle status = .ok later) ↔
      Changeable board requester trip driver vehicle status := by
  obtain rfl : trip.id = tripId := (Table.find?_eq_some.mp there).2
  simp only [updateTrip_accepted, ne_eq, Bool.or_eq_true, decide_eq_true_eq, List.contains_iff_mem, there, Option.some.injEq, exists_eq', and_true,
    exists_eq_left', exists_and_left, ite_eq_right_iff]
  constructor
  · rintro ⟨allowed, unfinished, going, able, known, free⟩
    refine ⟨allowed, ⟨unfinished, going⟩, fun asked => able (by simpa using asked), known,
      fun active => ?_⟩
    simpa [active] using free
  · rintro ⟨allowed, ⟨unfinished, going⟩, able, known, free⟩
    refine ⟨allowed, unfinished, going, fun asked => able (by simpa using asked), known, ?_⟩
    -- Whether the orders are free is asked only where the run sets out.
    by_cases active : status.getD trip.status = .active
    · simp [active, free active]
    · simp [active]

/-- The orders handed over are the driver's, and the others what they were. -/
theorem handedOver_rows {planned : Board} {chosen : DispatchOrder → Bool} {driver : Option String}
    {name : String} (same : planned.orders = board.orders) (named : Payment.present driver = some name) :
    (planned.handedOver chosen driver).orders.rows =
      board.orders.rows.map fun order => if chosen order then order.takenBy name else order := by
  -- Under a name that is not blank the chosen rows are taken, and the others copied.
  unfold Board.handedOver
  rw [named, ← same]
  rfl

/-- Nothing is written about the orders that are handed over. -/
theorem handedOver_quiet (planned : Board) (chosen : DispatchOrder → Bool) (driver : Option String) :
    (planned.handedOver chosen driver).logs = planned.logs := by
  -- With a driver or without, the log is not written to.
  unfold Board.handedOver
  split <;> rfl

/-- Handing orders over moves none of them, when none of them waits or there is nobody to take them. -/
theorem handedOver_logs {planned : Board} {chosen : DispatchOrder → Bool} {driver : Option String}
    (same : planned.orders = board.orders) (quiet : planned.logs = board.logs)
    (none_waits : Payment.present driver ≠ none →
      ∀ order ∈ board.orders.rows, chosen order = true → order.status ≠ .pending) :
    Logs board (planned.handedOver chosen driver) id := by
  -- Nobody takes anything without a name.
  cases named : Payment.present driver with
  | none =>
    unfold Board.handedOver
    rw [named]
    exact logs_same same quiet
  | some name =>
    refine logs_unmoved (handedOver_rows same named)
      ((handedOver_quiet planned chosen driver).trans quiet) (fun order before picked => ?_)
      fun _ => rfl
    -- An order changes its status on being taken only where it waits, and none of these does.
    have waits := none_waits (by simp [named]) order (Table.find?_eq_some.mp before).1 picked
    simp [DispatchOrder.takenBy, waits]

/-- An order that waits is assigned when it is handed over, and the log does not say so. -/
theorem handedOver_untold {planned : Board} {chosen : DispatchOrder → Bool} {driver : Option String}
    (told : board.Told) (still : (planned.handedOver chosen driver).Told)
    (same : planned.orders = board.orders) (quiet : planned.logs = board.logs)
    (given : Payment.present driver ≠ none)
    {order : DispatchOrder} (member : order ∈ board.orders.rows) (picked : chosen order = true) :
    order.status ≠ .pending := by
  -- Taken while it waited, it would be assigned by an UPDATE that no entry tells of.
  intro waits
  obtain ⟨name, named⟩ := Option.ne_none_iff_exists'.mp given
  have stays := unmoved_of_told told still (handedOver_rows same named)
    ((handedOver_quiet planned chosen driver).trans quiet) member picked fun _ => rfl
  simp [DispatchOrder.takenBy, waits] at stays

/-- A status update that passes its checks is made, if it is not an arrival recorded by the desk. -/
theorem updateOrderStatus_ok_iff {asked : Option OrderStatus} {code : String} {order : DispatchOrder}
    {moved : OrderStatus} (passes : statusChange cfg board requester target asked = .ok (order, moved)) :
    (∃ later, updateOrderStatus cfg board requester target asked code = .ok later) ↔
      requester.role = .driver ∨ moved ∉ arrivalStatuses := by
  -- Behind its checks the handler refuses an arrival alone, and that of the desk.
  constructor
  · rintro ⟨later, done⟩
    obtain ⟨_, _, again, may, -⟩ := updateOrderStatus_accepted.mp done
    cases passes.symm.trans again
    simpa [mayRecord] using may
  · intro may
    have records : mayRecord requester moved = true := by simpa [mayRecord] using may
    exact ⟨_, updateOrderStatus_accepted.mpr ⟨order, moved, passes, records, rfl⟩⟩

end Requests

/-- What is left of a refused request tells what was told. -/
theorem committed_logs {result : Except Failure Board}
    (logs : ∀ written, result = .ok written → Logs board written id) :
    Logs board (committed board result) id := by
  -- A request that was refused has been rolled back.
  cases result with
  | ok written => exact logs written rfl
  | error failure => exact logs_same rfl rfl

/-- An event that leaves no write out of the log logs what it does, to every order. -/
theorem logs_of_tells {story : Story} {event : StoryEvent}
    (idle : ∀ rest ∈ story.sweeps, rest = []) (tells : Tells cfg story event) :
    Logs story.board (storyStep cfg story event).board id := by
  -- Most events log what they do; the ones that leave a write out are what is asked of the event.
  cases event with
  | request event apart =>
    cases event with
    | createOrder requester request => exact committed_logs fun _ done => createOrder_logs done
    | publicCreateOrder request => exact committed_logs fun _ done => publicCreateOrder_logs done
    | placeOneOrder requester target pickup delivery pricing =>
      exact committed_logs fun _ done => placeOneOrder_logs done
    | assignOrderBundle requester orderIds driverName =>
      exact committed_logs fun _ done => assignOrderBundle_logs done
    | reassignOrder requester target driverName =>
      exact committed_logs fun _ done => reassignOrder_logs done
    | updateOrderStatus requester target status code committedLater =>
      simp only [storyStep, step]
      split
      · rename_i written done
        exact updateOrderStatus_logs done
      · rename_i failure refused
        unfold afterRefusedStatus
        split
        · rename_i order moved passes
          split
          · -- Such a request is refused for an arrival the desk may not record.
            rename_i later
            obtain ⟨written, done⟩ := (updateOrderStatus_ok_iff passes).mpr
              (tells later order moved passes)
            cases done.symm.trans refused
          · exact logs_same rfl rfl
        · exact logs_same rfl rfl
    | confirmDelivery requester target proof =>
      simp only [storyStep, step]
      split
      · rename_i written done
        exact confirmDelivery_logs done
      · exact afterRefusedProof_logs
    | offerOrders requester orderIds driverName minutes =>
      -- An offer that is made goes unlogged, so none is made.
      refine committed_logs fun later done => absurd ?_ tells
      exact offerOrders_ok_iff.mp ⟨later, done⟩
    | acceptOffer requester target => exact committed_logs fun _ done => acceptOffer_logs done
    | declineOffer requester target reason =>
      exact committed_logs fun _ done => declineOffer_logs done
    | expireJobOffers => exact absurd rfl apart
    | createTrip requester orderIds driver vehicle =>
      refine committed_logs fun later done => ?_
      have none_waits := tells (createTrip_ok_iff.mp ⟨later, done⟩)
      obtain ⟨-, -, -, -, -, -, -, -, rfl⟩ := createTrip_accepted.mp done
      -- The orders of a new run are handed over with no entry, so none of them may wait.
      exact handedOver_logs rfl rfl fun named order member asked =>
        none_waits named order member (List.contains_iff_mem.mp asked)
    | updateTrip requester tripId driver vehicle status =>
      refine committed_logs fun later done => ?_
      have accepted := done
      obtain ⟨-, -, trip, there, -, -, -, -, rfl⟩ := updateTrip_accepted.mp done
      exact handedOver_logs rfl rfl (tells trip there ((updateTrip_ok_iff there).mp ⟨_, accepted⟩))
    | updateStop requester stopId status reason =>
      exact committed_logs fun _ done => updateStop_logs done
    | reportIncident driver orderId => exact logs_same rfl rfl
    | payment target status method collectedAt settledAt =>
      exact logs_unmoved rfl rfl (fun _ _ _ => rfl) fun _ => rfl
    | elsewhere users vehicles driverDocuments vehicleDocuments elapsed => exact logs_same rfl rfl
  | forceOrderStatus requester target status reason =>
    simp only [storyStep]
    split
    · rename_i written done
      exact forceOrderStatus_logs done
    · exact logs_same rfl rfl
  | expireOffers =>
    refine logs_unmoved rfl rfl (fun order before lapsed => ?_) fun _ => rfl
    -- Marking the offers that have lapsed writes rows, and the entries follow later, so none may have lapsed.
    rw [tells order (Table.find?_eq_some.mp before).1] at lapsed
    cases lapsed
  | logExpired sweep =>
    simp only [storyStep]
    split
    · rename_i next rest listed
      -- There is no sweep with anything left to log.
      cases idle _ (List.mem_of_getElem? listed)
    · exact logs_same rfl rfl
  | crash sweep => exact logs_same rfl rfl

/-- A story that is told to the end, with every sweep finished. -/
structure Story.Sound (story : Story) : Prop where
  told : story.board.Told
  referenced : story.board.Referenced
  idle : ∀ rest ∈ story.sweeps, rest = []

/-- A write that the log leaves out breaks the story off. -/
theorem tells_of_told {story : Story} {event : StoryEvent} (sound : story.Sound)
    (still : (storyStep cfg story event).board.Told) : Tells cfg story event := by
  cases event with
  | request event apart =>
    cases event with
    | offerOrders requester orderIds driverName minutes =>
      intro offerable
      obtain ⟨later, done⟩ : ∃ later,
          offerOrders story.board requester orderIds driverName minutes = .ok later :=
        offerOrders_ok_iff.mpr offerable
      simp only [storyStep, step, done, committed] at still
      -- The first of the orders that are offered was waiting, and is offered now.
      obtain ⟨id, asked⟩ := List.exists_mem_of_ne_nil _ offerable.some_
      obtain ⟨order, member, rfl, waits⟩ :=
        story.board.orders.passing_of_length offerable.waiting asked
      obtain ⟨-, -, driver, -, -, -, -, rfl⟩ := offerOrders_accepted.mp done
      have stays := unmoved_of_told sound.told still rfl rfl member (List.contains_iff_mem.mpr asked)
        fun _ => rfl
      rw [of_decide_eq_true waits] at stays
      cases stays
    | createTrip requester orderIds driver vehicle =>
      intro plannable given order member asked
      obtain ⟨later, done⟩ : ∃ later,
          createTrip cfg story.board requester orderIds driver vehicle = .ok later :=
        createTrip_ok_iff.mpr plannable
      simp only [storyStep, step, done, committed] at still
      obtain ⟨-, -, -, -, -, -, -, -, rfl⟩ := createTrip_accepted.mp done
      exact handedOver_untold sound.told still rfl rfl given member (List.contains_iff_mem.mpr asked)
    | updateTrip requester tripId driver vehicle status =>
      intro trip there changeable given order member aboard
      obtain ⟨later, done⟩ := (updateTrip_ok_iff there).mpr changeable
      simp only [storyStep, step, done, committed] at still
      obtain ⟨-, -, trip', there', -, -, -, -, rfl⟩ := updateTrip_accepted.mp done
      obtain rfl := Option.some.inj (there'.symm.trans there)
      exact handedOver_untold sound.told still rfl rfl given member aboard
    | updateOrderStatus requester target status code committedLater =>
      intro later order moved passes
      by_contra refused
      simp only [storyStep, step] at still
      split at still
      · rename_i written done
        exact refused ((updateOrderStatus_ok_iff passes).mp ⟨written, done⟩)
      · unfold afterRefusedStatus at still
        simp only [passes, later, if_true] at still
        obtain ⟨rfl, found, allowed, -⟩ := statusChange_ok passes
        have after := story.board.order_changeOrder target (.movedTo moved) (fun _ => rfl) target
        rw [if_pos rfl, found, Option.map_some] at after
        -- An arrival never leaves the order where it was.
        refine not_told sound.told found after rfl (fun same => ?_) still
        have stays : moved = order.status := same
        rw [← stays] at allowed
        have arrives : moved ∈ arrivalStatuses := by
          by_contra elsewhere
          exact refused (.inr elsewhere)
        exact absurd allowed
          ((by decide : ∀ status ∈ arrivalStatuses, ¬ canTransition status status = true) _ arrives)
    | _ => trivial
  | expireOffers =>
    intro order member
    by_contra lapsed
    rw [Bool.not_eq_false] at lapsed
    have stays := unmoved_of_told sound.told still rfl rfl member lapsed fun _ => rfl
    simp only [Board.lapsed, Bool.and_eq_true, decide_eq_true_eq] at lapsed
    rw [lapsed.1] at stays
    cases stays
  | _ => trivial

/-- An event that leaves no write out of the log leaves no sweep anything to log. -/
theorem idle_of_tells {story : Story} {event : StoryEvent} (sound : story.Sound)
    (tells : Tells cfg story event) : ∀ rest ∈ (storyStep cfg story event).sweeps, rest = [] := by
  cases event with
  | request event apart => exact sound.idle
  | forceOrderStatus requester target status reason =>
    simp only [storyStep]
    split <;> exact sound.idle
  | expireOffers =>
    intro rest member
    -- A sweep that has just started has one entry for each offer that has lapsed, which is none.
    rcases List.mem_append.mp member with old | new
    · exact sound.idle rest old
    · rw [List.mem_singleton.mp new, List.map_eq_nil_iff, List.filter_eq_nil_iff]
      exact fun order listed => by simp [tells order listed]
  | logExpired sweep =>
    simp only [storyStep]
    split
    · rename_i next rest listed
      cases sound.idle _ (List.mem_of_getElem? listed)
    · exact sound.idle
  | crash sweep =>
    intro rest member
    -- A sweep that is cut short has nothing left to log either.
    rcases List.mem_or_eq_of_mem_set member with old | rfl
    · exact sound.idle rest old
    · rfl

/-- The story is told in every state of a run exactly when no write of the run is left out of it. -/
theorem told_iff_tells {story : Story} {events : List StoryEvent} (told : story.board.Told)
    (referenced : story.board.Referenced) (idle : story.sweeps = []) :
    Throughout (storyStep cfg) (fun story => story.board.Told) story events ↔
      Along (storyStep cfg) (Tells cfg) story events := by
  -- The step lemma says what one write leaves out; the references and the idle sweeps come along as invariants.
  refine throughout_iff_of_invariant (fun _ sound => Story.Sound.told sound)
    (fun _ _ => tells_of_told) (fun _ _ sound tells => ?_)
    ⟨told, referenced, fun rest member => by simp [idle] at member⟩
  obtain ⟨told, referenced⟩ := told_of_logs (fun _ => logs_of_tells sound.idle tells)
    sound.told sound.referenced
  exact ⟨told, referenced, idle_of_tells sound tells⟩

/-- An order that waits, and of which nothing is written yet. -/
theorem papersTogether_told : papersTogether.Told := by
  -- It is the only order there is.
  intro id order found
  rw [show order = _ from List.mem_singleton.mp (Table.find?_eq_some.mp found).1]
  rfl

/-- There are no entries at all. -/
theorem papersTogether_referenced : papersTogether.Referenced := fun _ member => absurd member List.not_mem_nil

/-- The order is offered, and its log does not know. -/
theorem offer_is_untold :
    papersTogether.Told ∧ papersTogether.Referenced ∧
      ¬ Throughout (storyStep .kigali) (fun story => story.board.Told) { board := papersTogether }
        [.request (.offerOrders aDispatcher [1] "driver" none) (fun same => by cases same)] := by
  -- In the last state the order is offered, and its log ends where it was still pending.
  refine ⟨papersTogether_told, papersTogether_referenced, fun throughout => ?_⟩
  have leads := throughout.last 1 _ rfl
  cases show OrderStatus.pending = .offered from leads

/-- Assigned, forced on and swept past, the order has its whole story in the log. -/
theorem assigned_and_forced_told :
    Throughout (storyStep .kigali) (fun story => story.board.Told) { board := papersTogether }
      [.request (.assignOrderBundle aDispatcher [1] "driver") (fun same => by cases same),
        .forceOrderStatus { username := "admin", role := .admin } 1 (some .delivered)
          "The customer has it, says the driver.",
        .expireOffers, .crash 0] := by
  -- The sweep is the one write the condition asks about, and it releases no offer here.
  refine (told_iff_tells papersTogether_told papersTogether_referenced rfl).mpr
    ⟨trivial, trivial, ?_, trivial, trivial⟩
  show ∀ order ∈ Board.orders _ |>.rows, _
  decide

end Freight.Dispatch
