import Freight.Dispatch.TripRuns

/-! Whether the status of a run tells the truth about its stops, whatever is done to runs. -/

namespace Freight.Dispatch

variable {cfg : DispatchConfig} {board later : Board} {events : List TripEvent}

/-- A run that may still be driven. -/
def Trip.isLive (trip : Trip) : Bool := trip.status = .planned || trip.status = .active

/-- The order has an open stop on a run that may still be driven. -/
def Board.onLiveRun (board : Board) (orderId : Nat) : Prop :=
  ∃ stop ∈ board.stops.rows, stop.orderId = orderId ∧ stop.isOpen = true ∧
    ∃ trip ∈ board.trips.rows, trip.id = stop.tripId ∧ trip.isLive = true

/-- The status of every run tells the truth about its stops, and no order is held back by a run that is over. -/
structure Board.Truthful (cfg : DispatchConfig) (board : Board) : Prop where
  active : ∀ trip ∈ board.trips.rows, trip.status = .active → board.hasOpen trip.id = true
  completed : ∀ trip ∈ board.trips.rows, trip.status = .completed → board.hasOpen trip.id = false
  cancelled : ∀ trip ∈ board.trips.rows, trip.status = .cancelled → board.hasOpen trip.id = false
  /-- An order in a status that can be planned is planned, by anybody who may, unless it is on a live run. -/
  plannable : ∀ order ∈ board.orders.rows, order.status ∈ plannableOrderStatuses →
    ¬ board.onLiveRun order.id → ∀ requester : Requester, requester.role ∈ dispatchRoles →
      ∃ later, createTrip cfg board requester [order.id] none none = .ok later

/-- The run an id names is cancelled. -/
def CancelledRun (id : Nat) (board : Board) : Prop :=
  ∃ trip, board.trip id = some trip ∧ trip.status = .cancelled

/-- Runs tell the truth throughout, and a cancelled one stays cancelled. -/
structure RunsTellTheTruth (cfg : DispatchConfig) (board : Board) (events : List TripEvent) : Prop where
  truthful : Throughout (tripStep cfg) (Board.Truthful cfg) board events
  stays : ∀ id, Stays (tripStep cfg) (CancelledRun id) board events

/--
No run is taken out of CANCELLED, or put into ACTIVE with nothing left to do on it.

`updateTrip` asks about neither: from any status but COMPLETED it goes to any that is asked for.
-/
def KeepsTruth (board : Board) : TripEvent → Prop
  | .updateTrip requester tripId driver vehicle status =>
    ∀ trip, board.trip tripId = some trip → Changeable board requester trip driver vehicle status →
      (trip.status = .cancelled → status.getD .cancelled = .cancelled) ∧
      (status = some .active → board.hasOpen tripId = true)
  | _ => True

/-- Every run's status agrees with whether anything is open on it. -/
structure Board.Agrees (board : Board) : Prop where
  rooted : board.Rooted
  active : ∀ trip ∈ board.trips.rows, trip.status = .active → board.hasOpen trip.id = true
  ended : ∀ trip ∈ board.trips.rows, trip.isLive = false → board.hasOpen trip.id = false

/-- A run that is over is completed or cancelled. -/
theorem Trip.isLive_eq_false {trip : Trip} :
    trip.isLive = false ↔ trip.status = .completed ∨ trip.status = .cancelled := by
  -- PLANNED and ACTIVE are the live ones.
  cases same : trip.status <;> simp [Trip.isLive, same]

/-- Where runs tell the truth, an open stop is on a run that may still be driven. -/
theorem Board.Agrees.live (agrees : board.Agrees) {stop : TripStop} (member : stop ∈ board.stops.rows)
    (open_ : stop.isOpen = true) : ∃ trip ∈ board.trips.rows, trip.id = stop.tripId ∧ trip.isLive = true := by
  -- Were its run over, no stop on it would be open.
  obtain ⟨trip, listed, own⟩ := agrees.rooted stop member
  refine ⟨trip, listed, own, ?_⟩
  by_contra ended
  have nothing := agrees.ended trip listed (Bool.eq_false_iff.mpr ended)
  rw [hasOpen_iff.mpr ⟨stop, member, own.symm, open_⟩] at nothing
  cases nothing

/-- A run for one order, without a driver or a vehicle, passes its checks when its stops are not planned yet. -/
theorem plannable_alone {requester : Requester} (allowed : requester.role ∈ dispatchRoles)
    {order : DispatchOrder} (member : order ∈ board.orders.rows)
    (status : order.status ∈ plannableOrderStatuses)
    (unplanned : ∀ draft ∈ order.draft, board.alreadyPlanned draft = false) :
    Plannable board requester [order.id] none none where
  -- With no driver and no vehicle there is nothing else to check.
  allowed := allowed
  some_ := List.cons_ne_nil _ _
  distinct := List.nodup_singleton _
  able := rfl
  found := by
    have there : board.orders.find? order.id = some order := Table.find?_eq_some.mpr ⟨member, rfl⟩
    have alone := board.orders.filter_key order.id
    rw [there] at alone
    simpa using congrArg List.length alone
  plannable := by
    intro other listed asked
    rw [board.orders.same_row listed member (List.mem_singleton.mp asked)]
    exact status
  known := rfl
  unplanned := by
    intro other listed asked
    rw [board.orders.same_row listed member (List.mem_singleton.mp asked)]
    exact unplanned

/-- A board whose runs agree with their stops is truthful. -/
theorem Board.Agrees.truthful (agrees : board.Agrees) : board.Truthful cfg where
  active := agrees.active
  completed := fun trip member ended => agrees.ended trip member (Trip.isLive_eq_false.mpr (.inl ended))
  cancelled := fun trip member ended => agrees.ended trip member (Trip.isLive_eq_false.mpr (.inr ended))
  plannable := by
    intro order member status free requester allowed
    refine createTrip_ok_iff.mpr (plannable_alone allowed member status fun draft drawn => ?_)
    -- An open stop of the order would be on a live run.
    by_contra planned
    obtain ⟨stop, listed, test⟩ := List.any_eq_true.mp (Bool.not_eq_false _ ▸ planned)
    simp only [Bool.and_eq_true, decide_eq_true_eq] at test
    have own : draft.orderId = order.id := by
      unfold DispatchOrder.draft at drawn
      simp only at drawn
      split at drawn
      · rw [List.mem_singleton.mp drawn]
      · rcases List.mem_cons.mp drawn with rfl | second
        · rfl
        · rw [List.mem_singleton.mp second]
    exact free ⟨stop, listed, test.1.1.trans own, test.2, agrees.live listed test.2⟩

/-- A truthful board, all of whose stops are on runs that exist, agrees. -/
theorem Board.Truthful.agrees (truthful : board.Truthful cfg) (rooted : board.Rooted) : board.Agrees where
  -- A run that is over has been completed or cancelled, and neither has open stops.
  rooted := rooted
  active := truthful.active
  ended := by
    intro trip member ended
    rcases Trip.isLive_eq_false.mp ended with completed | cancelled
    · exact truthful.completed trip member completed
    · exact truthful.cancelled trip member cancelled

/-- A run that is found cancelled is on record so. -/
theorem cancelledRun_iff {id : Nat} :
    CancelledRun id board ↔ ∃ trip ∈ board.trips.rows, trip.id = id ∧ trip.status = .cancelled := by
  -- Looking a run up finds the one row that has its id.
  constructor
  · rintro ⟨trip, there, cancelled⟩
    obtain ⟨member, own⟩ := Table.find?_eq_some.mp there
    exact ⟨trip, member, own, cancelled⟩
  · rintro ⟨trip, member, own, cancelled⟩
    exact ⟨trip, Table.find?_eq_some.mpr ⟨member, own⟩, cancelled⟩

/-- Two boards with the same runs whose stops differ in nothing that matters here. -/
structure SameRuns (board later : Board) : Prop where
  trips : later.trips = board.trips
  /-- Stop by stop the run and whether it is still to be made are the same. -/
  stops : ∃ change : TripStop → TripStop, later.stops.rows = board.stops.rows.map change ∧
    ∀ stop, (change stop).tripId = stop.tripId ∧ (change stop).isOpen = stop.isOpen

/-- Boards that differ in no stop at all have the same runs. -/
theorem SameRuns.of_eq (trips : later.trips = board.trips) (stops : later.stops = board.stops) :
    SameRuns board later :=
  ⟨trips, fun stop => stop, by rw [stops, List.map_id'], fun _ => ⟨rfl, rfl⟩⟩

/-- Nothing else is open on the same runs. -/
theorem SameRuns.hasOpen (same : SameRuns board later) (tripId : Nat) :
    later.hasOpen tripId = board.hasOpen tripId := by
  -- The stops are the same up to their numbers, and so is what is open.
  obtain ⟨change, rows, kept⟩ := same.stops
  unfold Board.hasOpen
  rw [rows, List.any_map]
  congr 1
  funext stop
  simp only [Function.comp_apply, kept]

/-- The same runs agree with their stops as they did. -/
theorem SameRuns.agrees (same : SameRuns board later) (agrees : board.Agrees) : later.Agrees where
  rooted := by
    intro stop member
    -- A stop stays on the run it was on.
    obtain ⟨change, rows, kept⟩ := same.stops
    rw [rows] at member
    obtain ⟨old, listed, rfl⟩ := List.mem_map.mp member
    rw [(kept old).1, same.trips]
    exact agrees.rooted old listed
  active := by
    intro trip member
    rw [same.trips] at member
    rw [same.hasOpen]
    exact agrees.active trip member
  ended := by
    intro trip member
    rw [same.trips] at member
    rw [same.hasOpen]
    exact agrees.ended trip member

/-- Numbering stops anew leaves runs as they are. -/
theorem sameRuns_numbered {ids : List Nat} (trips : later.trips = board.trips)
    (stops : later.stops = numberedStops board.stops ids) : SameRuns board later where
  -- Only numbers are written.
  trips := trips
  stops := by
    refine ⟨_, by rw [stops, numberedStops_rows], fun stop => ?_⟩
    split <;> exact ⟨rfl, rfl⟩

/-- What is planned has not been begun. -/
theorem agrees_createTrip {requester : Requester} {orderIds : List Nat} {driver : Option String}
    {vehicle : Option Nat} (agrees : board.Agrees)
    (done : createTrip cfg board requester orderIds driver vehicle = .ok later) : later.Agrees := by
  obtain ⟨trips, stops⟩ := createTrip_runs done
  -- The new run's number is above those of all the others.
  have apart : ∀ trip ∈ board.trips.rows, trip.id ≠ board.trips.nextSerial := fun trip member =>
    Nat.ne_of_lt (board.trips.lt_nextSerial member)
  have old_open : ∀ trip ∈ board.trips.rows, later.hasOpen trip.id = board.hasOpen trip.id := by
    intro trip member
    obtain ⟨ids, -, rows⟩ := plannedStops_rows board.trips.nextSerial board.stops
      (board.planned cfg driver (board.named orderIds))
    unfold Board.hasOpen
    rw [stops, rows, List.any_append]
    have none_new : ((((board.planned cfg driver (board.named orderIds)).zipIdx.zip ids).map
        fun item => item.1.1.stop board.trips.nextSerial item.1.2 item.2).any
          fun stop => stop.tripId = trip.id && stop.isOpen) = false := by
      rw [List.any_map, List.any_eq_false]
      intro item _
      simp [StopDraft.stop, Ne.symm (apart trip member)]
    rw [none_new, Bool.or_false]
  -- Every stop has its run; a run that is ACTIVE or over is an old one.
  refine ⟨fun stop member => ?_, fun trip member active => ?_, fun trip member ended => ?_⟩
  · rw [trips]
    obtain ⟨ids, planned⟩ := mem_plannedStops board.trips.nextSerial board.stops
      (board.planned cfg driver (board.named orderIds))
    rw [stops] at member
    rcases planned stop member with old | ⟨draft, position, id, -, -, rfl⟩
    · obtain ⟨trip, listed, own⟩ := agrees.rooted stop old
      exact ⟨trip, List.mem_append_left _ listed, own⟩
    · exact ⟨_, List.mem_append_right _ (List.mem_singleton_self _), rfl⟩
  · rw [trips] at member
    rcases List.mem_append.mp member with old | new
    · rw [old_open trip old]
      exact agrees.active trip old active
    · rw [List.mem_singleton.mp new] at active
      cases active
  · rw [trips] at member
    rcases List.mem_append.mp member with old | new
    · rw [old_open trip old]
      exact agrees.ended trip old ended
    · rw [List.mem_singleton.mp new] at ended
      cases ended

section Change

variable {requester : Requester} {tripId : Nat} {driver : Option (Option String)}
  {vehicle : Option Nat} {status : Option TripStatus}

/-- Cancelling leaves nothing open on the run, and no change touches what is open on others. -/
theorem hasOpen_updateTrip (stops : later.stops.rows = board.stops.rows.map fun stop =>
      if status = some TripStatus.cancelled ∧ stop.tripId = tripId ∧ stop.isOpen = true
      then stop.cancelled else stop) (id : Nat) :
    later.hasOpen id = if status = some .cancelled ∧ id = tripId then false else board.hasOpen id := by
  -- A stop that is cancelled is open no longer.
  have closed : ∀ stop : TripStop, stop.cancelled.isOpen = false := fun _ => rfl
  unfold Board.hasOpen
  rw [stops, List.any_map]
  by_cases this : status = some .cancelled ∧ id = tripId
  · obtain ⟨cancels, rfl⟩ := this
    rw [if_pos ⟨cancels, rfl⟩, List.any_eq_false]
    intro stop _
    by_cases touched : stop.tripId = id ∧ stop.isOpen = true
    · simp [cancels, touched, closed]
    · simp [cancels, touched]
  · rw [if_neg this]
    -- Any other run keeps its stops as they are.
    congr 1
    funext stop
    by_cases touched : status = some TripStatus.cancelled ∧ stop.tripId = tripId ∧ stop.isOpen = true
    · have other : stop.tripId ≠ id := fun own => this ⟨touched.1, own.symm.trans touched.2.1⟩
      have kept : stop.cancelled.tripId ≠ id := other
      simp only [Function.comp_apply, if_pos touched, other, kept, decide_false, Bool.false_and]
    · simp only [Function.comp_apply, if_neg touched]

/-- A run that is not made ACTIVE with nothing left to do agrees with its stops, and so do the others. -/
theorem agrees_updateTrip (agrees : board.Agrees)
    (done : updateTrip board requester tripId driver vehicle status = .ok later)
    (busy : status = some .active → board.hasOpen tripId = true) : later.Agrees := by
  obtain ⟨trip, there, trips, stops⟩ := updateTrip_runs done
  obtain ⟨listed, own⟩ := Table.find?_eq_some.mp there
  have unfinished := ((updateTrip_ok_iff there).mp ⟨later, done⟩).unfinished
  have open_after := @hasOpen_updateTrip board later tripId status stops
  refine ⟨fun stop member => ?_, fun run member active => ?_, fun run member ended => ?_⟩
  · rw [stops] at member
    obtain ⟨old, before, rfl⟩ := List.mem_map.mp member
    obtain ⟨run, is_run, same⟩ := agrees.rooted old before
    refine ⟨_, trips ▸ List.mem_map_of_mem is_run, ?_⟩
    split <;> split <;> exact same
  · rw [trips] at member
    obtain ⟨row, before, rfl⟩ := List.mem_map.mp member
    -- It is the run that was asked about, or one that stays as it was.
    by_cases its : row.id = tripId
    · obtain rfl := board.trips.same_row before listed (its.trans own.symm)
      simp only [its, if_true] at active ⊢
      rw [open_after, if_neg]
      · cases status with
        | none => exact own ▸ agrees.active row before active
        | some asked => exact busy (congrArg some active)
      · rintro ⟨rfl, -⟩
        cases active
    · simp only [its, if_false] at active ⊢
      rw [open_after, if_neg fun same => its same.2]
      exact agrees.active row before active
  · rw [trips] at member
    obtain ⟨row, before, rfl⟩ := List.mem_map.mp member
    by_cases its : row.id = tripId
    · obtain rfl := board.trips.same_row before listed (its.trans own.symm)
      simp only [its, if_true] at ended ⊢
      rw [open_after]
      split
      · rfl
      · rename_i not_cancelled
        -- What is over then was so before, or would have been made COMPLETED.
        cases status with
        | none => exact own ▸ agrees.ended row before ended
        | some asked =>
          rcases Trip.isLive_eq_false.mp ended with completed | cancelled
          · exact absurd (congrArg some completed) unfinished.1
          · exact absurd ⟨congrArg some cancelled, rfl⟩ not_cancelled
    · simp only [its, if_false] at ended ⊢
      rw [open_after, if_neg fun same => its same.2]
      exact agrees.ended row before ended

end Change

/-- A run that is worked through is over exactly when nothing is open on it any more. -/
theorem agrees_updateStop {requester : Requester} {stopId : Nat} {asked : Option StopStatus}
    {reason : Option String} (agrees : board.Agrees)
    (done : updateStop cfg board requester stopId asked reason = .ok later) :
    later.Agrees ∧ ∀ id, CancelledRun id board → CancelledRun id later := by
  obtain ⟨stop, trip, status, passes, stops, trips⟩ := updateStop_runs done
  obtain ⟨there, of_run, unfinished, -⟩ := stopChange_ok passes
  obtain ⟨listed, own⟩ := Table.find?_eq_some.mp there
  obtain ⟨is_run, its_run⟩ := Table.find?_eq_some.mp of_run
  -- The stop was open, so its run could still be driven.
  have was_open : stop.isOpen = true := by
    unfold TripStop.isOpen
    revert unfinished
    cases stop.status <;> decide
  have live : trip.isLive = true := by
    obtain ⟨run, member, same, live⟩ := agrees.live listed was_open
    obtain rfl := board.trips.same_row member is_run (same.trans its_run.symm)
    exact live
  -- Nothing changes on the other runs.
  have open_other : ∀ id, id ≠ trip.id → later.hasOpen id = board.hasOpen id := by
    intro id other
    unfold Board.hasOpen
    rw [stops, List.any_map]
    apply Bool.eq_iff_iff.mpr
    simp only [List.any_eq_true, Function.comp_apply]
    refine exists_congr fun row => and_congr_right fun member => ?_
    by_cases its : row.id = stopId
    · obtain rfl := board.stops.same_row member listed (its.trans own.symm)
      have apart : row.tripId ≠ id := fun same => other (same.symm.trans its_run.symm)
      simp [its, TripStop.updated, apart]
    · simp only [its, if_false]
  -- A run is over only when the last of its stops is finished.
  have live_after : ∀ row ∈ board.trips.rows, row.id = trip.id → later.hasOpen trip.id = true →
      (row.inStatus (if trip.status = .planned then .active else row.status)).isLive = true := by
    intro row member same _
    obtain rfl := board.trips.same_row member is_run same
    split
    · rfl
    · exact live
  refine ⟨⟨fun row member => ?_, fun run member active => ?_, fun run member ended => ?_⟩,
    fun id cancelled => ?_⟩
  · rw [stops] at member
    obtain ⟨old, before, rfl⟩ := List.mem_map.mp member
    obtain ⟨run, member, same⟩ := agrees.rooted old before
    have on_same : (if old.id = stopId then old.updated status (failureReasonOf reason) else old).tripId =
        old.tripId := by split <;> rfl
    refine ⟨_, trips ▸ List.mem_map_of_mem member, ?_⟩
    rw [on_same, ← same]
    split <;> rfl
  · rw [trips] at member
    obtain ⟨row, before, rfl⟩ := List.mem_map.mp member
    by_cases its : row.id = trip.id
    · simp only [its, if_true, Trip.inStatus_id] at active ⊢
      -- As long as a stop is open the run goes on.
      by_cases busy : later.hasOpen trip.id = true
      · exact busy
      · simp [busy, Trip.inStatus] at active
    · simp only [its, if_false] at active ⊢
      rw [open_other _ its]
      exact agrees.active row before active
  · rw [trips] at member
    obtain ⟨row, before, rfl⟩ := List.mem_map.mp member
    by_cases its : row.id = trip.id
    · simp only [its, if_true, Trip.inStatus_id] at ended ⊢
      by_contra busy
      simp only [Bool.not_eq_false] at busy
      rw [if_pos busy, live_after row before its busy] at ended
      cases ended
    · simp only [its, if_false] at ended ⊢
      rw [open_other _ its]
      exact agrees.ended row before ended
  -- A cancelled run is another one, since this one was live.
  · obtain ⟨row, before, same, is_cancelled⟩ := cancelledRun_iff.mp cancelled
    refine cancelledRun_iff.mpr ⟨row, ?_, same, is_cancelled⟩
    have other : row.id ≠ trip.id := by
      intro its
      obtain rfl := board.trips.same_row before is_run its
      simp [Trip.isLive, is_cancelled] at live
    rw [trips]
    exact List.mem_map.mpr ⟨row, before, if_neg other⟩

/-- The same runs are cancelled as were. -/
theorem SameRuns.cancelled (same : SameRuns board later) {id : Nat} (cancelled : CancelledRun id board) :
    CancelledRun id later := by
  -- It is looked up in the same table.
  obtain ⟨trip, there, status⟩ := cancelled
  refine ⟨trip, ?_, status⟩
  unfold Board.trip at there ⊢
  rw [same.trips]
  exact there

/-- A transaction that is refused changes nothing, and one that is not is committed. -/
theorem committed_cases (result : Except Failure Board) :
    committed board result = board ∨ ∃ later, result = .ok later ∧ committed board result = later := by
  -- By whether it was accepted.
  cases result with
  | ok later => exact .inr ⟨later, rfl, rfl⟩
  | error failure => exact .inl rfl

/-- Each event that keeps to the condition leaves runs that agree with their stops, and none revived. -/
theorem agrees_step (agrees : board.Agrees) {event : TripEvent} (keeps : KeepsTruth board event) :
    (tripStep cfg board event).Agrees ∧
      ∀ id, CancelledRun id board → CancelledRun id (tripStep cfg board event) := by
  -- Events that leave runs and open stops as they are keep both.
  have unchanged : ∀ {later : Board}, SameRuns board later →
      later.Agrees ∧ ∀ id, CancelledRun id board → CancelledRun id later := fun same =>
    ⟨same.agrees agrees, fun _ cancelled => same.cancelled cancelled⟩
  cases event with
  | createTrip requester orderIds driver vehicle =>
    simp only [tripStep]
    rcases @committed_cases board (createTrip cfg board requester orderIds driver vehicle) with
      same | ⟨later, done, is_it⟩
    · rw [same]
      exact unchanged (.of_eq rfl rfl)
    · rw [is_it]
      refine ⟨agrees_createTrip agrees done, fun id cancelled => ?_⟩
      obtain ⟨trip, member, own, status⟩ := cancelledRun_iff.mp cancelled
      refine cancelledRun_iff.mpr ⟨trip, ?_, own, status⟩
      rw [(createTrip_runs done).1]
      exact List.mem_append_left _ member
  | optimiseTrip requester tripId =>
    simp only [tripStep]
    rcases @committed_cases board (optimiseTrip cfg board requester tripId) with same | ⟨later, done, is_it⟩
    · rw [same]
      exact unchanged (.of_eq rfl rfl)
    · rw [is_it]
      obtain ⟨trip, start, -, trips, stops⟩ := optimiseTrip_runs done
      exact unchanged (sameRuns_numbered trips stops)
  | reorderTrip requester tripId stopIds =>
    simp only [tripStep]
    rcases @committed_cases board (reorderTrip board requester tripId stopIds) with same | ⟨later, done, is_it⟩
    · rw [same]
      exact unchanged (.of_eq rfl rfl)
    · rw [is_it]
      obtain ⟨trips, stops⟩ := reorderTrip_runs done
      exact unchanged (sameRuns_numbered trips stops)
  | updateTrip requester tripId driver vehicle status =>
    simp only [tripStep]
    rcases @committed_cases board (updateTrip board requester tripId driver vehicle status) with
      same | ⟨later, done, is_it⟩
    · rw [same]
      exact unchanged (.of_eq rfl rfl)
    · rw [is_it]
      obtain ⟨trip, there, trips, -⟩ := updateTrip_runs done
      -- The condition keeps a cancelled run cancelled, and asks for something open on a run that is started.
      obtain ⟨stays, busy⟩ := keeps trip there ((updateTrip_ok_iff there).mp ⟨later, done⟩)
      refine ⟨agrees_updateTrip agrees done busy, fun id cancelled => ?_⟩
      obtain ⟨row, member, own, is_cancelled⟩ := cancelledRun_iff.mp cancelled
      refine cancelledRun_iff.mpr ⟨_, trips ▸ List.mem_map_of_mem member, ?_⟩
      by_cases its : row.id = tripId
      · obtain ⟨listed, same⟩ := Table.find?_eq_some.mp there
        obtain rfl := board.trips.same_row member listed (its.trans same.symm)
        rw [if_pos its, is_cancelled]
        exact ⟨own, stays is_cancelled⟩
      · rw [if_neg its]
        exact ⟨own, is_cancelled⟩
  | updateStop requester stopId status reason =>
    simp only [tripStep]
    rcases @committed_cases board (updateStop cfg board requester stopId status reason) with
      same | ⟨later, done, is_it⟩
    · rw [same]
      exact unchanged (.of_eq rfl rfl)
    · rw [is_it]
      exact agrees_updateStop agrees done
  | elsewhere orders users vehicles driverDocuments vehicleDocuments elapsed =>
    exact unchanged (.of_eq rfl rfl)

/-- An event that leaves runs truthful and none revived keeps to the condition. -/
theorem keepsTruth_of_truthful {event : TripEvent} (truthful : (tripStep cfg board event).Truthful cfg)
    (stays : ∀ id, CancelledRun id board → CancelledRun id (tripStep cfg board event)) :
    KeepsTruth board event := by
  cases event with
  | updateTrip requester tripId driver vehicle status =>
    intro trip there changeable
    obtain ⟨later, done⟩ := (updateTrip_ok_iff there).mpr changeable
    obtain ⟨_, there', trips, stops⟩ := updateTrip_runs done
    obtain rfl := Option.some.inj (there.symm.trans there')
    obtain ⟨listed, own⟩ := Table.find?_eq_some.mp there
    simp only [tripStep, done, committed] at truthful stays
    -- The run's own row, as the UPDATE leaves it.
    have written : { trip with
        driverUsername := driver.getD trip.driverUsername, vehicleId := vehicle.or trip.vehicleId
        status := status.getD trip.status } ∈ later.trips.rows := by
      rw [trips]
      exact List.mem_map.mpr ⟨trip, listed, if_pos own⟩
    constructor
    · intro cancelled
      obtain ⟨row, member, same, is_cancelled⟩ :=
        cancelledRun_iff.mp (stays tripId ⟨trip, there, cancelled⟩)
      obtain rfl := later.trips.same_row member written (same.trans own.symm)
      have put : status.getD trip.status = .cancelled := is_cancelled
      rw [cancelled] at put
      exact put
    · rintro rfl
      have busy := truthful.active _ written rfl
      rw [hasOpen_updateTrip stops, if_neg (by simp)] at busy
      exact own ▸ busy
  | _ => trivial

/-- Runs tell the truth throughout exactly when no change of a run revives or starts one that is over. -/
theorem runsTellTheTruth_iff (rooted : board.Rooted) (truthful : board.Truthful cfg) :
    RunsTellTheTruth cfg board events ↔ Along (tripStep cfg) KeepsTruth board events := by
  -- What runs say and that they stay cancelled are kept together, one step deciding for one step.
  have exactly := @along_iff_of_invariant _ _ (tripStep cfg) Board.Agrees (Board.Truthful cfg)
    (fun board event => ∀ id, CancelledRun id board → CancelledRun id (tripStep cfg board event))
    KeepsTruth (fun board agrees => agrees.truthful)
    (fun board event _ stays after => keepsTruth_of_truthful after stays)
    (fun board event agrees keeps => agrees_step agrees keeps) board events (truthful.agrees rooted)
  rw [← exactly, ← along_forall]
  simp only [← stays_iff_along]
  exact ⟨fun told => ⟨told.truthful, told.stays⟩, fun told => ⟨told.1, told.2⟩⟩

/-- A board without runs agrees with its stops. -/
theorem oneWaiting_agrees : oneWaiting.Agrees where
  -- It has no stop and no run to disagree.
  rooted := by
    intro stop member
    cases member
  active := by
    intro trip member
    cases member
  ended := by
    intro trip member
    cases member

/-- A run that is planned and cancelled tells the truth throughout. -/
theorem cancelled_run_truthful : RunsTellTheTruth .kigali oneWaiting
    [.createTrip aDispatcher [1] none none, .updateTrip aDispatcher 1 none none (some .cancelled)] :=
  (runsTellTheTruth_iff oneWaiting_agrees.rooted oneWaiting_agrees.truthful).mpr
    ⟨trivial, fun _ _ _ => ⟨fun _ => rfl, fun active => absurd active (by decide)⟩, trivial⟩

/-- A run that is cancelled can be started again, with nothing left to do on it. -/
theorem cancelled_run_revived : ¬ RunsTellTheTruth .kigali oneWaiting
    [.createTrip aDispatcher [1] none none, .updateTrip aDispatcher 1 none none (some .cancelled),
      .updateTrip aDispatcher 1 none none (some .active)] := by
  intro told
  have stays := told.stays 1
    [.createTrip aDispatcher [1] none none, .updateTrip aDispatcher 1 none none (some .cancelled)]
    [.updateTrip aDispatcher 1 none none (some .active)] (List.prefix_refl _)
  -- The run was cancelled, and then it is active.
  have was : ((run (tripStep .kigali) oneWaiting [.createTrip aDispatcher [1] none none,
      .updateTrip aDispatcher 1 none none (some .cancelled)]).trip 1).map Trip.status =
        some .cancelled := by decide +kernel
  have becomes : ((run (tripStep .kigali) oneWaiting [.createTrip aDispatcher [1] none none,
      .updateTrip aDispatcher 1 none none (some .cancelled),
      .updateTrip aDispatcher 1 none none (some .active)]).trip 1).map Trip.status = some .active := by
    decide +kernel
  obtain ⟨trip, there, cancelled⟩ := Option.map_eq_some_iff.mp was
  obtain ⟨later, found, still⟩ := stays ⟨trip, there, cancelled⟩
  have both := (congrArg (Option.map Trip.status) found).symm.trans becomes
  rw [Option.map_some, still] at both
  cases both

end Freight.Dispatch
