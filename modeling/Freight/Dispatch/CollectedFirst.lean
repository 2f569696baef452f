import Freight.Dispatch.TripRuns
import Freight.Library.Positions

/-! Whether loads are collected before they are dropped, in the plan of a run and in the field. -/

namespace Freight.Dispatch

variable {cfg : DispatchConfig} {board later : Board} {events : List TripEvent}

/-- Two stops of one order on one run: its load is collected at one, and dropped at the other. -/
structure TripStop.CollectsFor (pickup drop : TripStop) : Prop where
  collects : pickup.kind = .pickup
  drops : drop.kind = .drop
  run : drop.tripId = pickup.tripId
  order : drop.orderId = pickup.orderId

/-- Whether two stops belong together so is decided by their columns. -/
instance (pickup drop : TripStop) : Decidable (pickup.CollectsFor drop) :=
  decidable_of_iff (pickup.kind = .pickup ∧ drop.kind = .drop ∧ drop.tripId = pickup.tripId ∧
      drop.orderId = pickup.orderId)
    ⟨fun ⟨collects, drops, run, order⟩ => ⟨collects, drops, run, order⟩,
      fun ⟨collects, drops, run, order⟩ => ⟨collects, drops, run, order⟩⟩

/-- Loads are collected before they are dropped, as runs are planned and as they are driven. -/
structure Board.CollectedFirst (board : Board) : Prop where
  planned : ∀ pickup ∈ board.stops.rows, ∀ drop ∈ board.stops.rows, pickup.CollectsFor drop →
    pickup.sequence < drop.sequence
  driven : ∀ pickup ∈ board.stops.rows, ∀ drop ∈ board.stops.rows, pickup.CollectsFor drop →
    drop.status = .done → pickup.isOpen = false

/-- A run makes one stop of each kind for an order at most. -/
def Board.Single (board : Board) : Prop :=
  ∀ one ∈ board.stops.rows, ∀ other ∈ board.stops.rows, other.tripId = one.tripId →
    other.orderId = one.orderId → other.kind = one.kind → other = one

/-- A dispatcher orders a run that exists by hand: every stop of it, exactly once. -/
structure Reorderable (board : Board) (requester : Requester) (tripId : Nat) (stopIds : List Nat) : Prop where
  allowed : requester.role ∈ dispatchRoles
  some_ : stopIds ≠ []
  distinct : stopIds.Nodup
  each : ∀ id, id ∈ stopIds ↔ ∃ stop ∈ board.stops.rows, stop.tripId = tripId ∧ stop.id = id

/-- A dispatcher has a run put in order, of which two stops at least are still ahead. -/
structure Optimisable (board : Board) (requester : Requester) (tripId : Nat) : Prop where
  allowed : requester.role ∈ dispatchRoles
  exists_ : (board.trip tripId).isSome = true
  ahead : 2 ≤ (board.stops.rows.filter fun stop => stop.tripId = tripId && stop.isOpen).length

/-- Somebody who may closes a stop, as done, that is still to be made on a run that is there. -/
structure Closable (cfg : DispatchConfig) (board : Board) (requester : Requester) (stop : TripStop)
    (trip : Trip) : Prop where
  run : board.trip stop.tripId = some trip
  allowed : requester.role = .driver → sameName cfg trip.driverUsername requester.username = true
  ahead : stop.isOpen = true
  able : trip.status = .planned → board.driverBusy trip.id trip.driverUsername = false

/--
The condition on an event: a run is put in order only while no pickup on it is left open behind a drop
that is closed, an order given by hand has every pickup before its drop, and a drop is done only where
its pickup is no longer open.
-/
def CollectsFirst (cfg : DispatchConfig) (board : Board) : TripEvent → Prop
  -- Optimising leaves what is finished in front of what is open.
  | .optimiseTrip requester tripId => Optimisable board requester tripId →
    ∀ pickup ∈ board.stops.rows, ∀ drop ∈ board.stops.rows, pickup.CollectsFor drop →
      pickup.tripId = tripId → pickup.isOpen = true → drop.isOpen = true
  -- An order given by hand is taken as it is.
  | .reorderTrip requester tripId stopIds => Reorderable board requester tripId stopIds →
    ∀ pickup ∈ board.stops.rows, ∀ drop ∈ board.stops.rows, pickup.CollectsFor drop →
      pickup.tripId = tripId → stopIds.idxOf pickup.id < stopIds.idxOf drop.id
  | .updateStop requester stopId status _ => status = some .done →
    ∀ drop ∈ board.stops.rows, drop.id = stopId → ∀ trip, Closable cfg board requester drop trip →
      ∀ pickup ∈ board.stops.rows, pickup.CollectsFor drop → pickup.isOpen = false
  | _ => True

/-- Every stop is on a run that is there, no kind twice for an order, and loads are collected first. -/
structure Board.Collecting (board : Board) : Prop where
  rooted : board.Rooted
  single : board.Single
  first : board.CollectedFirst

/-- Loads are collected first only where a condition is met, and where it is nothing else is lost. -/
structure Board.DecidedBy (board : Board) (meets : Prop) : Prop where
  needed : board.CollectedFirst → meets
  enough : meets → board.Collecting

/-- A condition is as good as any that says the same. -/
theorem Board.DecidedBy.congr {one other : Prop} (decided : board.DecidedBy one) (same : one ↔ other) :
    board.DecidedBy other where
  -- Both directions are turned by the equivalence.
  needed := fun first => same.mp (decided.needed first)
  enough := fun met => decided.enough (same.mpr met)

/-- A change of stops that leaves each on its run, for its order, and of its kind. -/
structure Restamps (change : TripStop → TripStop) : Prop where
  tripId : ∀ stop, (change stop).tripId = stop.tripId
  orderId : ∀ stop, (change stop).orderId = stop.orderId
  kind : ∀ stop, (change stop).kind = stop.kind

/-- Two stops belong together after such a change exactly when they did before. -/
theorem Restamps.collectsFor {change : TripStop → TripStop} (keeps : Restamps change)
    {pickup drop : TripStop} (pair : (change pickup).CollectsFor (change drop)) :
    pickup.CollectsFor drop where
  -- The change keeps what makes two stops a pair: their kinds, their run and their order.
  collects := keeps.kind pickup ▸ pair.collects
  drops := keeps.kind drop ▸ pair.drops
  run := by rw [← keeps.tripId drop, ← keeps.tripId pickup, pair.run]
  order := by rw [← keeps.orderId drop, ← keeps.orderId pickup, pair.order]

/-- And the other way round. -/
theorem Restamps.collectsFor_mpr {change : TripStop → TripStop} (keeps : Restamps change)
    {pickup drop : TripStop} (pair : pickup.CollectsFor drop) :
    (change pickup).CollectsFor (change drop) where
  -- The kind, the run and the order of a stop are kept.
  collects := (keeps.kind pickup).trans pair.collects
  drops := (keeps.kind drop).trans pair.drops
  run := by rw [keeps.tripId drop, keeps.tripId pickup, pair.run]
  order := by rw [keeps.orderId drop, keeps.orderId pickup, pair.order]

/-- A board whose stops are changed so, and whose runs are still there, is judged by its pairs of stops. -/
theorem Board.Collecting.of_map (sound : board.Collecting) {change : TripStop → TripStop}
    (keeps : Restamps change) (stops : later.stops.rows = board.stops.rows.map change)
    (trips : ∀ trip ∈ board.trips.rows, ∃ run ∈ later.trips.rows, run.id = trip.id)
    (first : ∀ pickup ∈ board.stops.rows, ∀ drop ∈ board.stops.rows, pickup.CollectsFor drop →
      (change pickup).sequence < (change drop).sequence ∧
        ((change drop).status = .done → (change pickup).isOpen = false)) : later.Collecting where
  rooted := by
    intro stop member
    rw [stops] at member
    obtain ⟨old, listed, rfl⟩ := List.mem_map.mp member
    obtain ⟨trip, is_run, own⟩ := sound.rooted old listed
    obtain ⟨run, still, same⟩ := trips trip is_run
    exact ⟨run, still, by rw [same, own, keeps.tripId]⟩
  single := by
    intro one member other listed on_run for_order of_kind
    rw [stops] at member listed
    -- Run, order and kind are as they were, so the two are one stop already.
    obtain ⟨old, before, rfl⟩ := List.mem_map.mp member
    obtain ⟨older, earlier, rfl⟩ := List.mem_map.mp listed
    rw [keeps.tripId, keeps.tripId] at on_run
    rw [keeps.orderId, keeps.orderId] at for_order
    rw [keeps.kind, keeps.kind] at of_kind
    rw [sound.single old before older earlier on_run for_order of_kind]
  first := by
    constructor
    all_goals
      intro pickup member drop listed pair
      rw [stops] at member listed
      obtain ⟨old, before, rfl⟩ := List.mem_map.mp member
      obtain ⟨older, earlier, rfl⟩ := List.mem_map.mp listed
    · exact (first old before older earlier (keeps.collectsFor pair)).1
    · exact (first old before older earlier (keeps.collectsFor pair)).2

/-- A stop is still to be made exactly when it is not finished. -/
theorem isOpen_iff {stop : TripStop} :
    stop.isOpen = true ↔ terminalStopStatuses.contains stop.status = false := by
  -- Status by status.
  unfold TripStop.isOpen
  cases stop.status <;> decide

section Accepted

variable {requester : Requester} {tripId : Nat}

/-- Reordering is accepted exactly for what may be reordered so. -/
theorem reorderTrip_ok_iff {stopIds : List Nat} :
    (∃ later, reorderTrip board requester tripId stopIds = .ok later) ↔
      Reorderable board requester tripId stopIds := by
  -- The stops of the run are told apart by their ids.
  have distinct : ((board.stops.rows.filter fun stop => stop.tripId = tripId).map
      fun stop => stop.id).Nodup := board.stops.unique.sublist (List.filter_sublist.map _)
  have known : ∀ id, id ∈ ((board.stops.rows.filter fun stop => stop.tripId = tripId).map
      fun stop => stop.id) ↔ ∃ stop ∈ board.stops.rows, stop.tripId = tripId ∧ stop.id = id := by
    intro id
    simp only [List.mem_map, List.mem_filter, decide_eq_true_eq, and_assoc]
  simp only [reorderTrip_accepted, Bool.and_eq_true, decide_eq_true_eq,
    Bool.not_eq_true', List.isEmpty_eq_false_iff, List.all_eq_true, List.contains_iff_mem, and_assoc]
  constructor
  · rintro ⟨later, allowed, some_, long, among, once, -⟩
    have same := (once.subperm among).perm_of_length_le (Nat.le_of_eq long.symm)
    exact ⟨allowed, some_, once, fun id => same.mem_iff.trans (known id)⟩
  · intro able
    have same := (List.perm_ext_iff_of_nodup able.distinct distinct).mpr fun id =>
      (able.each id).trans (known id).symm
    exact ⟨_, able.allowed, able.some_, same.length_eq, fun id member => same.mem_iff.mp member,
      able.distinct, rfl⟩

/-- Optimising is accepted exactly for a run with two stops ahead. -/
theorem optimiseTrip_ok_iff :
    (∃ later, optimiseTrip cfg board requester tripId = .ok later) ↔
      Optimisable board requester tripId := by
  -- The code counts the stops of the sorted run, and the statement those of the table.
  have ahead : ((board.stopsOf tripId).filter fun stop => openStopStatuses.contains stop.status).length =
      (board.stops.rows.filter fun stop => stop.tripId = tripId && stop.isOpen).length := by
    have same := (List.perm_insertionSort (fun one other : TripStop => one.sequence ≤ other.sequence)
      (board.stops.rows.filter fun stop => stop.tripId = tripId)).filter TripStop.isOpen
    rw [List.filter_filter] at same
    simp only [Bool.and_comm] at same
    exact same.length_eq
  constructor
  · rintro ⟨later, done⟩
    obtain ⟨allowed, trip, there, enough, -⟩ := optimiseTrip_accepted.mp done
    exact ⟨List.contains_iff_mem.mp allowed, by rw [there]; rfl, ahead ▸ enough⟩
  · intro able
    obtain ⟨trip, there⟩ := Option.isSome_iff_exists.mp able.exists_
    exact ⟨_, optimiseTrip_accepted.mpr
      ⟨List.contains_iff_mem.mpr able.allowed, trip, there, ahead.symm ▸ able.ahead, rfl⟩⟩

/-- A stop is closed as done exactly when somebody who may does so, and it is still to be made. -/
theorem stopChange_done_iff {stopId : Nat} {reason : Option String} {stop : TripStop} {trip : Trip} :
    stopChange cfg board requester stopId (some .done) reason = .ok (stop, trip, .done) ↔
      board.stop stopId = some stop ∧ Closable cfg board requester stop trip := by
  -- Being done is a status that drivers may set, and it asks for no reason.
  have asked : (some StopStatus.done).filter driverStopTransitions.contains = some .done := by decide
  have no_reason : [StopStatus.failed, .skipped].contains StopStatus.done = false := by decide
  simp only [stopChange_accepted, asked, no_reason, Bool.false_and, Bool.not_false, true_and,
    Bool.or_eq_true, decide_eq_true_eq, Bool.not_eq_true', ne_eq]
  constructor
  · rintro ⟨there, run, allowed, ahead, able⟩
    exact ⟨there, run, fun driver => allowed.resolve_left fun not_one => not_one driver,
      isOpen_iff.mpr ahead, fun waits => able.resolve_left fun not_so => not_so waits⟩
  · rintro ⟨there, able⟩
    refine ⟨there, able.run, ?_, isOpen_iff.mp able.ahead, ?_⟩
    · exact or_iff_not_imp_left.mpr fun driver => able.allowed (not_not.mp driver)
    · exact or_iff_not_imp_left.mpr fun waits => able.able (not_not.mp waits)

end Accepted

section Planned

/-- What is planned for an order is the order's. -/
theorem draft_own {order : DispatchOrder} {draft : StopDraft} (drawn : draft ∈ order.draft) :
    draft.orderId = order.id := by
  -- An order needs a drop, and a pickup before it unless its load is aboard.
  unfold DispatchOrder.draft at drawn
  simp only at drawn
  split at drawn
  · rw [List.mem_singleton.mp drawn]
  · rcases List.mem_cons.mp drawn with first | rest
    · rw [first]
    · rw [List.mem_singleton.mp rest]

/-- One stop of a kind at most is planned for an order. -/
theorem draft_single {order : DispatchOrder} {one other : StopDraft} (drawn : one ∈ order.draft)
    (besides : other ∈ order.draft) (kind : other.kind = one.kind) : other = one := by
  unfold DispatchOrder.draft at drawn besides
  simp only at drawn besides
  split at drawn
  · rw [if_pos (by assumption)] at besides
    rw [List.mem_singleton.mp drawn, List.mem_singleton.mp besides]
  · rw [if_neg (by assumption)] at besides
    -- The two that are planned are a pickup and a drop.
    simp only [List.mem_cons, List.not_mem_nil, or_false] at drawn besides
    rcases drawn with rfl | rfl <;> rcases besides with rfl | rfl
    · rfl
    · cases kind
    · cases kind
    · rfl

/-- No stop is planned twice for an order. -/
theorem draft_nodup (order : DispatchOrder) : order.draft.Nodup := by
  -- Its pickup and its drop differ in kind.
  unfold DispatchOrder.draft
  simp only
  split
  · exact List.nodup_singleton _
  · simp

variable {driver : Option String} {orderIds : List Nat}

/-- One stop of a kind at most is planned for each order of a new run. -/
theorem planned_single {one other : StopDraft}
    (drawn : one ∈ board.planned cfg driver (board.named orderIds))
    (besides : other ∈ board.planned cfg driver (board.named orderIds))
    (order : other.orderId = one.orderId) (kind : other.kind = one.kind) : other = one := by
  obtain ⟨first, named, drafted⟩ := mem_planned.mp drawn
  obtain ⟨second, called, written⟩ := mem_planned.mp besides
  -- Orders are told apart by their ids, so both drafts are one order's.
  have same : second = first := board.orders.same_row (List.mem_filter.mp called).1
    (List.mem_filter.mp named).1 ((draft_own written).symm.trans (order.trans (draft_own drafted)))
  subst same
  exact draft_single drafted written kind

/-- No stop is planned twice for a new run. -/
theorem planned_nodup : (board.planned cfg driver (board.named orderIds)).Nodup := by
  -- Sequencing only permutes, and the drafts of two orders differ in the order they are for.
  unfold Board.planned
  rw [(sequenceStops_perm _ _ _ _).nodup_iff, List.nodup_flatMap]
  refine ⟨fun order _ => draft_nodup order, ?_⟩
  have apart : (board.named orderIds).Pairwise fun one other => one.id ≠ other.id := by
    have distinct : ((board.named orderIds).map fun order => order.id).Nodup :=
      board.orders.unique.sublist (List.filter_sublist.map _)
    exact List.pairwise_map.mp distinct
  refine apart.imp ?_
  intro one other differ draft drawn besides
  exact differ ((draft_own drawn).symm.trans (draft_own besides))

/-- The stops of a new run come in an order in which loads are collected first. -/
theorem planned_before {pickup drop : StopDraft}
    (drawn : pickup ∈ board.planned cfg driver (board.named orderIds)) (collects : pickup.kind = .pickup)
    (drops : drop.kind = .drop) (order : drop.orderId = pickup.orderId) :
    (board.planned cfg driver (board.named orderIds)).idxOf pickup <
      (board.planned cfg driver (board.named orderIds)).idxOf drop := by
  -- The sequencer puts a pickup before the drops of its order, and this draft is the only pickup there is.
  have drafted := mem_planned.mp drawn
  refine @sequenceStops_before _ _ StopDraft.leg _ _ _ _ _ (List.mem_flatMap.mpr drafted) collects
    drops order rfl ?_
  intro other listed also same
  exact planned_single drawn (mem_planned.mpr (List.mem_flatMap.mp listed)) same (also.trans collects.symm)

end Planned

/-- A new run collects its loads first, and the others are driven as they were. -/
theorem collecting_createTrip {requester : Requester} {orderIds : List Nat} {driver : Option String}
    {vehicle : Option Nat} (sound : board.Collecting)
    (done : createTrip cfg board requester orderIds driver vehicle = .ok later) : later.Collecting := by
  obtain ⟨trips, stops⟩ := createTrip_runs done
  obtain ⟨ids, cases_⟩ := mem_plannedStops board.trips.nextSerial board.stops
    (board.planned cfg driver (board.named orderIds))
  rw [← stops] at cases_
  -- The new run's number is above those of all the others, so no stop of theirs is on it.
  have apart : ∀ stop ∈ board.stops.rows, stop.tripId ≠ board.trips.nextSerial := by
    intro stop member
    obtain ⟨trip, is_run, own⟩ := sound.rooted stop member
    exact own ▸ Nat.ne_of_lt (board.trips.lt_nextSerial is_run)
  -- A stop drafted at some position has that position in the plan, and no other.
  have placed : ∀ {draft : StopDraft} {position : Nat},
      (board.planned cfg driver (board.named orderIds))[position]? = some draft →
        (board.planned cfg driver (board.named orderIds)).idxOf draft = position :=
    fun there => idxOf_of_getElem? planned_nodup there
  refine ⟨?_, ?_, ?_, ?_⟩
  · intro stop member
    rw [trips]
    rcases cases_ stop member with old | ⟨draft, position, id, -, -, rfl⟩
    · obtain ⟨trip, listed, own⟩ := sound.rooted stop old
      exact ⟨trip, List.mem_append_left _ listed, own⟩
    · exact ⟨_, List.mem_append_right _ (List.mem_singleton_self _), rfl⟩
  · intro one member other listed on_run for_order of_kind
    rcases cases_ one member with old | ⟨draft, position, id, drafted, numbered, rfl⟩
    · rcases cases_ other listed with older | ⟨draft, position, id, -, -, rfl⟩
      · exact sound.single one old other older on_run for_order of_kind
      · exact absurd on_run.symm (apart one old)
    · rcases cases_ other listed with older | ⟨second, index, serial, written, counted, rfl⟩
      · exact absurd on_run (apart other older)
      · -- One draft stands at one position, and got one number.
        have same : second = draft := planned_single (List.mem_of_getElem? drafted)
          (List.mem_of_getElem? written) for_order of_kind
        subst same
        obtain rfl := (placed drafted).symm.trans (placed written)
        obtain rfl := Option.some.inj (numbered.symm.trans counted)
        rfl
  · intro pickup member drop listed pair
    rcases cases_ pickup member with old | ⟨draft, position, id, drafted, -, rfl⟩
    · rcases cases_ drop listed with older | ⟨draft, position, id, -, -, rfl⟩
      · exact sound.first.planned pickup old drop older pair
      · exact absurd pair.run.symm (apart pickup old)
    · rcases cases_ drop listed with older | ⟨second, index, serial, written, -, rfl⟩
      · exact absurd pair.run (apart drop older)
      · have before := planned_before (List.mem_of_getElem? drafted) pair.collects pair.drops pair.order
        rw [placed drafted, placed written] at before
        exact Nat.succ_lt_succ before
  · intro pickup member drop listed pair is_done
    rcases cases_ drop listed with older | ⟨second, index, serial, -, -, rfl⟩
    · rcases cases_ pickup member with old | ⟨draft, position, id, -, -, rfl⟩
      · exact sound.first.driven pickup old drop older pair is_done
      · exact absurd pair.run (apart drop older)
    · cases is_done

section Numbered

variable {tripId : Nat} {ids : List Nat}

/-- A stop numbered anew where its id is listed. -/
def TripStop.numbered (ids : List Nat) (stop : TripStop) : TripStop :=
  if stop.id ∈ ids then { stop with sequence := ids.idxOf stop.id + 1 } else stop

/-- Numbering changes nothing but the number. -/
theorem numbered_restamps (ids : List Nat) : Restamps (TripStop.numbered ids) := by
  -- Whether or not the stop is in the list, its number is all that is written.
  constructor
  all_goals
    intro stop
    unfold TripStop.numbered
    split <;> rfl

/-- Nor what has become of a stop. -/
theorem numbered_status (ids : List Nat) (stop : TripStop) :
    (stop.numbered ids).status = stop.status := by
  -- Listed or not, a stop gets a number at most.
  unfold TripStop.numbered
  split <;> rfl

/-- A stop whose id is listed has its place in the list. -/
theorem numbered_sequence {stop : TripStop} (listed : stop.id ∈ ids) :
    (stop.numbered ids).sequence = ids.idxOf stop.id + 1 := by
  -- The number it is given is its place.
  rw [TripStop.numbered, if_pos listed]

/-- A run whose stops are numbered anew collects its loads first exactly when they are listed so. -/
theorem collecting_numbered (sound : board.Collecting) (trips : later.trips = board.trips)
    (stops : later.stops = numberedStops board.stops ids)
    (own : ∀ stop ∈ board.stops.rows, stop.id ∈ ids ↔ stop.tripId = tripId) :
    later.DecidedBy <| ∀ pickup ∈ board.stops.rows, ∀ drop ∈ board.stops.rows, pickup.CollectsFor drop →
      pickup.tripId = tripId → ids.idxOf pickup.id < ids.idxOf drop.id := by
  have rows : later.stops.rows = board.stops.rows.map (TripStop.numbered ids) := by
    rw [stops, numberedStops_rows]
    rfl
  constructor
  · intro after pickup member drop listed pair on_run
    -- On the run itself, the numbers are the places in the list.
    have planned := after.planned _ (rows ▸ List.mem_map_of_mem member) _
      (rows ▸ List.mem_map_of_mem listed) ((numbered_restamps ids).collectsFor_mpr pair)
    rw [numbered_sequence ((own pickup member).mpr on_run),
      numbered_sequence ((own drop listed).mpr (pair.run.trans on_run))] at planned
    exact Nat.lt_of_succ_lt_succ planned
  · intro before
    refine sound.of_map (numbered_restamps ids) rows (fun trip is_run => ⟨trip, trips ▸ is_run, rfl⟩) ?_
    intro pickup member drop listed pair
    constructor
    · by_cases on_run : pickup.tripId = tripId
      · rw [numbered_sequence ((own pickup member).mpr on_run),
          numbered_sequence ((own drop listed).mpr (pair.run.trans on_run))]
        exact Nat.succ_lt_succ (before pickup member drop listed pair on_run)
      · -- The pair is on another run, and keeps its numbers.
        have elsewhere : drop.tripId ≠ tripId := fun same => on_run (pair.run.symm.trans same)
        rw [TripStop.numbered, if_neg fun among => on_run ((own pickup member).mp among),
          TripStop.numbered, if_neg fun among => elsewhere ((own drop listed).mp among)]
        exact sound.first.planned pickup member drop listed pair
    · -- Numbering closes and opens no stop.
      unfold TripStop.isOpen
      rw [numbered_status, numbered_status]
      exact sound.first.driven pickup member drop listed pair

end Numbered

section Optimised

variable {tripId : Nat} {start : Option Point}

/-- The order in which an optimised run makes its stops: those visited first, and then what is ahead. -/
def Board.optimised (cfg : DispatchConfig) (board : Board) (tripId : Nat) (start : Option Point) :
    List TripStop :=
  ((board.stopsOf tripId).filter fun stop => terminalStopStatuses.contains stop.status) ++
    sequenceStops cfg TripStop.leg ((board.stopsOf tripId).filter TripStop.isOpen) start

/-- The stops of a run, in whatever order. -/
theorem mem_stopsOf {stop : TripStop} :
    stop ∈ board.stopsOf tripId ↔ stop ∈ board.stops.rows ∧ stop.tripId = tripId := by
  -- Sorting loses nothing, and the filter asks for the run.
  unfold Board.stopsOf
  rw [(List.perm_insertionSort _ _).mem_iff, List.mem_filter, decide_eq_true_eq]

/-- The stops ahead, put in order, are the stops ahead. -/
theorem mem_ahead {stop : TripStop} :
    stop ∈ sequenceStops cfg TripStop.leg ((board.stopsOf tripId).filter TripStop.isOpen) start ↔
      stop ∈ board.stopsOf tripId ∧ stop.isOpen = true := by
  -- Sequencing permutes the stops, and drops none.
  rw [(sequenceStops_perm _ _ _ _).mem_iff, List.mem_filter]

/-- An optimised run makes the stops it made. -/
theorem mem_optimised {stop : TripStop} :
    stop ∈ board.optimised cfg tripId start ↔ stop ∈ board.stops.rows ∧ stop.tripId = tripId := by
  unfold Board.optimised
  rw [List.mem_append, mem_ahead, List.mem_filter, ← mem_stopsOf]
  -- A stop is finished or ahead.
  cases ahead : stop.isOpen with
  | true => simpa using fun among _ => among
  | false =>
    have finished : terminalStopStatuses.contains stop.status = true := by
      by_contra unfinished
      rw [isOpen_iff.mpr (Bool.not_eq_true _ ▸ unfinished)] at ahead
      cases ahead
    rw [finished]
    simp

/-- The ids of the stops are listed where the stops are. -/
theorem idxOf_optimised {stop : TripStop} (member : stop ∈ board.stops.rows) :
    ((board.optimised cfg tripId start).map fun stop => stop.id).idxOf stop.id =
      (board.optimised cfg tripId start).idxOf stop :=
  -- Stops have an id each, so the search for the id finds the stop.
  @idxOf_map_of_apart _ _ _ _ (fun stop : TripStop => stop.id) _ _ fun _ listed same =>
    board.stops.same_row (mem_optimised.mp listed).1 member same

/-- Optimising keeps each load collected first exactly when no pickup is ahead behind a closed drop. -/
theorem optimised_before (sound : board.Collecting) {pickup drop : TripStop}
    (member : pickup ∈ board.stops.rows) (listed : drop ∈ board.stops.rows)
    (pair : pickup.CollectsFor drop) (on_run : pickup.tripId = tripId) :
    (board.optimised cfg tripId start).idxOf pickup < (board.optimised cfg tripId start).idxOf drop ↔
      (pickup.isOpen = true → drop.isOpen = true) := by
  have its : pickup ∈ board.stopsOf tripId := mem_stopsOf.mpr ⟨member, on_run⟩
  have other : drop ∈ board.stopsOf tripId := mem_stopsOf.mpr ⟨listed, pair.run.trans on_run⟩
  -- A stop is either settled or ahead, and the settled ones come first.
  have settled_not_ahead : ∀ {stop : TripStop}, stop.isOpen = true →
      stop ∉ (board.stopsOf tripId).filter fun stop => terminalStopStatuses.contains stop.status := by
    intro stop ahead among
    have finished := (List.mem_filter.mp among).2
    rw [isOpen_iff.mp ahead] at finished
    cases finished
  have settled : ∀ {stop : TripStop}, stop ∈ board.stopsOf tripId → ¬ stop.isOpen = true →
      stop ∈ (board.stopsOf tripId).filter fun stop => terminalStopStatuses.contains stop.status := by
    intro stop among not_ahead
    refine List.mem_filter.mpr ⟨among, ?_⟩
    by_contra unfinished
    exact not_ahead (isOpen_iff.mpr (Bool.not_eq_true _ ▸ unfinished))
  unfold Board.optimised
  by_cases ahead : pickup.isOpen = true
  · by_cases also : drop.isOpen = true
    · -- Both are ahead, and are put in order together.
      refine ⟨fun _ _ => also, fun _ => ?_⟩
      rw [List.idxOf_append_of_notMem (settled_not_ahead ahead),
        List.idxOf_append_of_notMem (settled_not_ahead also)]
      refine Nat.add_lt_add_left (sequenceStops_before start (List.mem_filter.mpr ⟨its, ahead⟩)
        pair.collects pair.drops pair.order (isOpen_iff.mp ahead) ?_) _
      -- No other pickup of the run is for the same order.
      intro stop among collects same
      obtain ⟨found, run⟩ := mem_stopsOf.mp (List.mem_filter.mp among).1
      exact sound.single pickup member stop found (run.trans on_run.symm) same
        (collects.trans pair.collects.symm)
    · -- The drop is closed, and is put before whatever is ahead.
      refine ⟨fun before => ?_, fun needs => absurd (needs ahead) also⟩
      exact absurd before (Nat.lt_asymm (idxOf_lt_of_append (settled other also) (settled_not_ahead ahead)))
  · refine ⟨fun _ opens => absurd opens ahead, fun _ => ?_⟩
    by_cases also : drop.isOpen = true
    · exact idxOf_lt_of_append (settled its ahead) (settled_not_ahead also)
    · -- Both are closed, and keep the order they had.
      rw [List.idxOf_append_of_mem (settled its ahead), List.idxOf_append_of_mem (settled other also)]
      have sorted := List.pairwise_insertionSort (fun one other : TripStop => one.sequence ≤ other.sequence)
        (board.stops.rows.filter fun stop => stop.tripId = tripId)
      exact @idxOf_lt_of_sorted _ _ TripStop.sequence _ (sorted.sublist List.filter_sublist) _ _
        (settled its ahead) (sound.first.planned pickup member drop listed pair)

end Optimised

section Steps

variable {requester : Requester} {tripId : Nat}

/-- An optimised run collects its loads first exactly when no pickup was ahead behind a closed drop. -/
theorem collecting_optimiseTrip (sound : board.Collecting)
    (done : optimiseTrip cfg board requester tripId = .ok later) :
    later.DecidedBy <| ∀ pickup ∈ board.stops.rows, ∀ drop ∈ board.stops.rows, pickup.CollectsFor drop →
      pickup.tripId = tripId → pickup.isOpen = true → drop.isOpen = true := by
  obtain ⟨_, start, -, trips, stops⟩ := optimiseTrip_runs done
  have numbered : later.stops = numberedStops board.stops
      ((board.optimised cfg tripId start).map fun stop => stop.id) := stops
  -- The ids that are numbered are those of the run's stops.
  have own : ∀ stop ∈ board.stops.rows,
      stop.id ∈ (board.optimised cfg tripId start).map (fun stop => stop.id) ↔ stop.tripId = tripId := by
    intro stop member
    rw [List.mem_map]
    constructor
    · rintro ⟨other, among, same⟩
      obtain ⟨found, on_run⟩ := mem_optimised.mp among
      exact board.stops.same_row found member same ▸ on_run
    · exact fun on_run => ⟨stop, mem_optimised.mpr ⟨member, on_run⟩, rfl⟩
  refine (collecting_numbered sound trips numbered own).congr ?_
  refine forall₂_congr fun pickup member => forall₂_congr fun drop listed =>
    forall₂_congr fun pair on_run => ?_
  rw [idxOf_optimised member, idxOf_optimised listed]
  exact optimised_before sound member listed pair on_run

/-- A run ordered by hand collects its loads first exactly when it is ordered so. -/
theorem collecting_reorderTrip {stopIds : List Nat} (sound : board.Collecting)
    (done : reorderTrip board requester tripId stopIds = .ok later) :
    later.DecidedBy <| ∀ pickup ∈ board.stops.rows, ∀ drop ∈ board.stops.rows, pickup.CollectsFor drop →
      pickup.tripId = tripId → stopIds.idxOf pickup.id < stopIds.idxOf drop.id := by
  -- A run that is ordered by hand names each of its stops once, so the numbers are those of the list.
  obtain ⟨trips, stops⟩ := reorderTrip_runs done
  have able := reorderTrip_ok_iff.mp ⟨later, done⟩
  refine collecting_numbered sound trips stops fun stop member => (able.each stop.id).trans ?_
  constructor
  · rintro ⟨other, found, on_run, same⟩
    exact board.stops.same_row found member same ▸ on_run
  · exact fun on_run => ⟨stop, member, on_run, rfl⟩

/-- Changing a run collects nothing and drops nothing: what it closes is not done. -/
theorem collecting_updateTrip {driver : Option (Option String)} {vehicle : Option Nat}
    {status : Option TripStatus} (sound : board.Collecting)
    (done : updateTrip board requester tripId driver vehicle status = .ok later) : later.Collecting := by
  obtain ⟨trip, -, trips, stops⟩ := updateTrip_runs done
  refine sound.of_map ?_ stops (fun run is_run => ?_) fun pickup member drop listed pair => ?_
  · constructor
    all_goals
      intro stop
      split <;> rfl
  · refine ⟨_, trips ▸ List.mem_map_of_mem is_run, ?_⟩
    split <;> rfl
  · have planned := sound.first.planned pickup member drop listed pair
    have driven := sound.first.driven pickup member drop listed pair
    refine ⟨?_, fun is_done => ?_⟩
    · -- Cancelling renumbers nothing.
      split <;> split <;> exact planned
    · -- The drop was done before, for a cancelled run's stops are skipped.
      have was_done : drop.status = .done := by
        split at is_done
        · cases is_done
        · exact is_done
      split
      · rfl
      · exact driven was_done

/-- Working through a run keeps loads collected first exactly when no drop is done before its pickup. -/
theorem collecting_updateStop {stopId : Nat} {asked : Option StopStatus} {reason : Option String}
    (sound : board.Collecting) (done : updateStop cfg board requester stopId asked reason = .ok later) :
    later.DecidedBy <| asked = some .done → ∀ drop ∈ board.stops.rows, drop.id = stopId →
      ∀ trip, Closable cfg board requester drop trip →
        ∀ pickup ∈ board.stops.rows, pickup.CollectsFor drop → pickup.isOpen = false := by
  obtain ⟨stop, trip, status, passes, stops, trips⟩ := updateStop_runs done
  obtain ⟨there, of_run, unfinished, -⟩ := stopChange_ok passes
  obtain ⟨found, own⟩ := Table.find?_eq_some.mp there
  have asked_is : asked = some status := stopChange_asked passes
  have keeps : Restamps fun row : TripStop =>
      if row.id = stopId then row.updated status (failureReasonOf reason) else row := by
    constructor
    all_goals
      intro row
      split <;> rfl
  constructor
  · rintro after rfl drop listed is_it - - pickup member pair
    obtain rfl := Option.some.inj asked_is
    -- The drop is done now, and the pickup is what it was.
    have other : pickup.id ≠ stopId := by
      intro same
      obtain rfl := board.stops.same_row member listed (same.trans is_it.symm)
      exact absurd (pair.collects.symm.trans pair.drops) (by decide)
    have closed := after.driven _ (stops ▸ List.mem_map_of_mem member) _
      (stops ▸ List.mem_map_of_mem listed) (keeps.collectsFor_mpr pair)
    rw [if_pos is_it, if_neg other] at closed
    exact closed rfl
  · intro before
    refine sound.of_map keeps stops (fun run is_run => ?_) fun pickup member drop listed pair => ?_
    · refine ⟨_, trips ▸ List.mem_map_of_mem is_run, ?_⟩
      split <;> rfl
    · have planned := sound.first.planned pickup member drop listed pair
      have driven := sound.first.driven pickup member drop listed pair
      refine ⟨by split <;> split <;> exact planned, fun is_done => ?_⟩
      by_cases its_drop : drop.id = stopId
      · obtain rfl := board.stops.same_row listed found (its_drop.trans own.symm)
        rw [if_pos its_drop] at is_done
        have asked_done : asked = some .done := asked_is.trans (congrArg some is_done)
        have closable : Closable cfg board requester drop trip :=
          (stopChange_done_iff.mp (show stopChange cfg board requester stopId (some .done) reason =
            .ok (drop, trip, .done) by
              have is_it : status = .done := is_done
              rw [← asked_done, passes, is_it])).2
        have other : pickup.id ≠ stopId := by
          intro same
          obtain rfl := board.stops.same_row member listed (same.trans its_drop.symm)
          exact absurd (pair.collects.symm.trans pair.drops) (by decide)
        rw [if_neg other]
        exact before asked_done drop listed its_drop trip closable pickup member pair
      · rw [if_neg its_drop] at is_done
        have closed := driven is_done
        split
        · -- A pickup that is not open any more cannot be updated.
          rename_i its_pickup
          obtain rfl := board.stops.same_row member found (its_pickup.trans own.symm)
          rw [isOpen_iff.mpr unfinished] at closed
          cases closed
        · exact closed

end Steps

/-- A transaction that is refused changes nothing, so what decides it matters where it is not. -/
theorem decided_committed (sound : board.Collecting) {result : Except Failure Board} {able meets : Prop}
    (exactly : (∃ later, result = .ok later) ↔ able)
    (accepted : ∀ later, result = .ok later → later.DecidedBy meets) :
    (committed board result).DecidedBy (able → meets) := by
  -- Where the transaction is refused nothing is decided, and nothing changes.
  cases result with
  | ok later =>
    have is_able := exactly.mp ⟨later, rfl⟩
    exact (accepted later rfl).congr ⟨fun met _ => met, fun met => met is_able⟩
  | error failure =>
    refine ⟨fun _ is_able => ?_, fun _ => sound⟩
    obtain ⟨later, is_ok⟩ := exactly.mpr is_able
    cases is_ok

/-- A transaction that keeps loads collected first wherever it is accepted does so anyway. -/
theorem collecting_committed (sound : board.Collecting) {result : Except Failure Board}
    (accepted : ∀ later, result = .ok later → later.Collecting) :
    (committed board result).DecidedBy True := by
  -- Accepted it leaves a sound board, refused the one it found.
  refine ⟨fun _ => trivial, fun _ => ?_⟩
  cases result with
  | ok later => exact accepted later rfl
  | error failure => exact sound

/-- The condition on an event decides whether loads are still collected first behind it. -/
theorem decided_step (sound : board.Collecting) (event : TripEvent) :
    (tripStep cfg board event).DecidedBy (CollectsFirst cfg board event) := by
  cases event with
  | createTrip requester orderIds driver vehicle =>
    exact collecting_committed sound fun _ done => collecting_createTrip sound done
  | optimiseTrip requester tripId =>
    exact decided_committed sound optimiseTrip_ok_iff fun _ done => collecting_optimiseTrip sound done
  | reorderTrip requester tripId stopIds =>
    exact decided_committed sound reorderTrip_ok_iff fun _ done => collecting_reorderTrip sound done
  | updateTrip requester tripId driver vehicle status =>
    exact collecting_committed sound fun _ done => collecting_updateTrip sound done
  | updateStop requester stopId status reason =>
    have decided := decided_committed sound Iff.rfl fun (later : Board)
      (done : updateStop cfg board requester stopId status reason = .ok later) =>
        collecting_updateStop sound done
    refine decided.congr ⟨fun met asked drop listed is_it trip closable => ?_, fun met _ => met⟩
    -- A drop that may be closed is one that is closed.
    refine met ?_ asked drop listed is_it trip closable
    have passes : stopChange cfg board requester stopId (some .done) reason = .ok (drop, trip, .done) :=
      stopChange_done_iff.mpr ⟨Table.find?_eq_some.mpr ⟨listed, is_it⟩, closable⟩
    rw [← asked] at passes
    unfold updateStop
    rw [passes]
    exact ⟨_, rfl⟩
  | elsewhere orders users vehicles driverDocuments vehicleDocuments elapsed =>
    exact ⟨fun _ => trivial, fun _ =>
      ⟨sound.rooted, sound.single, ⟨sound.first.planned, sound.first.driven⟩⟩⟩

/-- Loads are collected first throughout exactly when every event of the run meets the condition. -/
theorem collectedFirst_iff (rooted : board.Rooted) (single : board.Single) (first : board.CollectedFirst) :
    Throughout (tripStep cfg) Board.CollectedFirst board events ↔
      Along (tripStep cfg) (CollectsFirst cfg) board events :=
  -- One step decides for one step, and the invariant carries that along the run.
  @throughout_iff_of_invariant _ _ (tripStep cfg) Board.Collecting Board.CollectedFirst (CollectsFirst cfg)
    (fun _ sound => sound.first)
    (fun _ event sound after => (decided_step sound event).needed after)
    (fun _ event sound met => (decided_step sound event).enough met) board events
    ⟨rooted, single, first⟩

/-- A run whose pickup is made first, and then its drop, collects its load first throughout. -/
theorem run_collected_first : Throughout (tripStep .kigali) Board.CollectedFirst oneWaiting
    [.createTrip aDispatcher [1] none none, .updateStop aDispatcher 1 (some .done) none,
      .updateStop aDispatcher 2 (some .done) none] := by
  have none_yet : ∀ stop, stop ∉ oneWaiting.stops.rows := fun stop member => by cases member
  refine (collectedFirst_iff (fun stop member => absurd member (none_yet stop))
    (fun one member => absurd member (none_yet one))
    ⟨fun one member => absurd member (none_yet one), fun one member => absurd member (none_yet one)⟩).mpr
    ⟨trivial, fun _ drop listed is_it _ _ pickup member pair => ?_,
      fun _ drop listed is_it _ _ pickup member pair => ?_, trivial⟩
  · -- The stop that is made first is no drop.
    have no_pair : ∀ drop ∈ (tripStep .kigali oneWaiting
        (.createTrip aDispatcher [1] none none)).stops.rows, drop.id = 1 → drop.kind ≠ .drop := by
      decide +kernel
    exact absurd pair.drops (no_pair drop listed is_it)
  · -- The drop is made after every pickup is closed.
    have collected : ∀ pickup ∈ (tripStep .kigali (tripStep .kigali oneWaiting
        (.createTrip aDispatcher [1] none none)) (.updateStop aDispatcher 1 (some .done) none)).stops.rows,
        pickup.kind = .pickup → pickup.isOpen = false := by
      decide +kernel
    exact collected pickup member pair.collects

/-- A run of one order, its drop put before its pickup by hand. -/
def orderedByHand : List TripEvent :=
  [.createTrip aDispatcher [1] none none, .reorderTrip aDispatcher 1 [2, 1]]

/-- A run of one order, its drop made before its pickup. -/
def droppedAtOnce : List TripEvent :=
  [.createTrip aDispatcher [1] none none, .updateStop aDispatcher 2 (some .done) none]

/-- A load may be planned, and driven, so that it is dropped before it is collected. -/
theorem dropped_before_collected :
    (¬ Throughout (tripStep .kigali) Board.CollectedFirst oneWaiting orderedByHand) ∧
      ¬ Throughout (tripStep .kigali) Board.CollectedFirst oneWaiting droppedAtOnce := by
  constructor
  · intro collected
    -- In the order by hand, the drop has the lower number.
    have wrong : ¬ ∀ pickup ∈ (run (tripStep .kigali) oneWaiting orderedByHand).stops.rows,
        ∀ drop ∈ (run (tripStep .kigali) oneWaiting orderedByHand).stops.rows,
          pickup.CollectsFor drop → pickup.sequence < drop.sequence := by
      decide +kernel
    exact wrong collected.last.planned
  · intro collected
    -- Here the drop is done while the pickup is open.
    have wrong : ¬ ∀ pickup ∈ (run (tripStep .kigali) oneWaiting droppedAtOnce).stops.rows,
        ∀ drop ∈ (run (tripStep .kigali) oneWaiting droppedAtOnce).stops.rows,
          pickup.CollectsFor drop → drop.status = .done → pickup.isOpen = false := by
      decide +kernel
    exact wrong collected.last.driven

end Freight.Dispatch
