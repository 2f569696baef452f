import Freight.Dispatch.CollectedFirst

/-! Whether the stops of a run are numbered from one on, whoever puts them in order. -/

namespace Freight.Dispatch

variable {cfg : DispatchConfig} {board later : Board} {tripId : Nat}

/-- The stops on a run, in whatever order. -/
def Board.onRun (board : Board) (tripId : Nat) : List TripStop :=
  board.stops.rows.filter fun stop => stop.tripId = tripId

/-- The stops of a run that are finished, in their order. -/
def Board.settled (board : Board) (tripId : Nat) : List TripStop :=
  (board.stopsOf tripId).filter fun stop => terminalStopStatuses.contains stop.status

/-- The stops of a run that are still to be made, in their order. -/
def Board.ahead (board : Board) (tripId : Nat) : List TripStop :=
  (board.stopsOf tripId).filter TripStop.isOpen

/-- The stops of a run have the numbers from one on, each of them once. -/
def Board.InSequence (board : Board) (tripId : Nat) : Prop :=
  ((board.onRun tripId).map fun stop => stop.sequence).Perm
    (List.range' 1 (board.onRun tripId).length)

/-- What a stop was drafted as. -/
def TripStop.draft (stop : TripStop) : StopDraft where
  orderId := stop.orderId
  kind := stop.kind
  place := stop.place

/--
What an event leaves of the stops: those of every run that is there stay on it, a run that is planned
gets what its orders need, and optimising puts what is finished first, in the order it had.
-/
def KeepsStops (cfg : DispatchConfig) (board : Board) (event : TripEvent) : Prop :=
  -- No event takes a stop off its run, or moves it to another.
  (∀ tripId, (board.trip tripId).isSome = true →
    ((tripStep cfg board event).onRun tripId).map (fun stop => stop.id) =
      (board.onRun tripId).map fun stop => stop.id) ∧
  match event with
  | .createTrip requester orderIds driver vehicle =>
    ∀ later, createTrip cfg board requester orderIds driver vehicle = .ok later →
      ((later.stopsOf board.trips.nextSerial).map TripStop.draft).Perm
        ((board.named orderIds).flatMap DispatchOrder.draft)
  | .optimiseTrip requester tripId =>
    ∀ later, optimiseTrip cfg board requester tripId = .ok later →
      later.stopsOf tripId = later.settled tripId ++ later.ahead tripId ∧
        (later.settled tripId).map (fun stop => stop.id) =
          (board.settled tripId).map fun stop => stop.id
  | _ => True

section Numbered

variable {ids : List Nat}

/-- The places of a list's members in it, counted from one. -/
theorem map_idxOf_succ (distinct : ids.Nodup) :
    (ids.map fun id => ids.idxOf id + 1) = List.range' 1 ids.length := by
  -- Without duplicates, each member is found at its own position.
  apply List.ext_getElem
  · rw [List.length_map, List.length_range']
  · intro position within _
    rw [List.length_map] at within
    rw [List.getElem_map, distinct.idxOf_getElem position within, List.getElem_range']
    omega

/-- The stops of a run are the same ones after a change that leaves each on its run. -/
theorem onRun_map {change : TripStop → TripStop} (rows : later.stops.rows = board.stops.rows.map change)
    (keeps : ∀ stop, (change stop).tripId = stop.tripId) (tripId : Nat) :
    later.onRun tripId = (board.onRun tripId).map change := by
  -- A change that leaves a stop on its run may be made before the run is chosen or after.
  unfold Board.onRun
  rw [rows, List.filter_map]
  congr 2
  funext stop
  simp only [Function.comp, keeps]

/-- A run whose stops are numbered as their ids are listed is in sequence. -/
theorem inSequence_numbered (rows : later.stops.rows = board.stops.rows.map (TripStop.numbered ids))
    (all : ((board.onRun tripId).map fun stop => stop.id).Perm ids) : later.InSequence tripId := by
  have distinct : ids.Nodup := by
    rw [← all.nodup_iff]
    exact board.stops.unique.sublist (List.filter_sublist.map _)
  have own := onRun_map rows (numbered_restamps ids).tripId tripId
  -- A stop's number is the place of its id, and the ids are in all places there are.
  have numbers : (later.onRun tripId).map (fun stop => stop.sequence) =
      ((board.onRun tripId).map fun stop => stop.id).map fun id => ids.idxOf id + 1 := by
    rw [own, List.map_map, List.map_map]
    apply List.map_congr_left
    intro stop member
    exact numbered_sequence (all.mem_iff.mp (List.mem_map_of_mem member))
  have long : (later.onRun tripId).length = ids.length := by
    rw [own, List.length_map, ← all.length_eq, List.length_map]
  unfold Board.InSequence
  rw [numbers, long, ← map_idxOf_succ distinct]
  exact all.map _

/-- A run whose stops keep their numbers stays in sequence. -/
theorem inSequence_of_map {change : TripStop → TripStop}
    (rows : later.stops.rows = board.stops.rows.map change)
    (keeps : ∀ stop, (change stop).tripId = stop.tripId)
    (numbers : ∀ stop ∈ board.onRun tripId, (change stop).sequence = stop.sequence)
    (before : board.InSequence tripId) : later.InSequence tripId := by
  -- The numbers, and how many there are, are the same.
  have same : (later.onRun tripId).map (fun stop => stop.sequence) =
      (board.onRun tripId).map fun stop => stop.sequence := by
    rw [onRun_map rows keeps, List.map_map]
    exact List.map_congr_left numbers
  unfold Board.InSequence
  rw [same, onRun_map rows keeps, List.length_map]
  exact before

/-- A list of stops that are numbered in their order is the run in its order. -/
theorem stopsOf_eq {ordered : List TripStop} (all : ordered.Perm (board.onRun tripId))
    (increasing : ordered.Pairwise fun one other => one.sequence < other.sequence) :
    board.stopsOf tripId = ordered := by
  have sorted := List.pairwise_insertionSort (fun one other : TripStop => one.sequence ≤ other.sequence)
    (board.onRun tripId)
  have same := (List.perm_insertionSort (fun one other : TripStop => one.sequence ≤ other.sequence)
    (board.onRun tripId)).trans all.symm
  refine same.eq_of_pairwise ?_ sorted (increasing.imp Nat.le_of_lt)
  intro one other listed member first second
  -- Two stops of one number are one, since the list has no number twice.
  have distinct : (ordered.map fun stop => stop.sequence).Nodup :=
    List.pairwise_map.mpr (increasing.imp Nat.ne_of_lt)
  exact List.inj_on_of_nodup_map distinct (same.mem_iff.mp listed) member (Nat.le_antisymm first second)

end Numbered

section Ordered

/-- A stop is open, or it is finished. -/
theorem isOpen_eq (stop : TripStop) : stop.isOpen = !terminalStopStatuses.contains stop.status := by
  -- Status by status.
  unfold TripStop.isOpen
  cases stop.status <;> decide

/-- The stops of a run are those that are finished, and those that are ahead. -/
theorem settled_ahead_perm (board : Board) (tripId : Nat) :
    (board.settled tripId ++ board.ahead tripId).Perm (board.stopsOf tripId) := by
  -- A stop is ahead exactly when its status is not terminal.
  have ahead : board.ahead tripId =
      (board.stopsOf tripId).filter fun stop => !terminalStopStatuses.contains stop.status :=
    List.filter_congr fun stop _ => isOpen_eq stop
  rw [Board.settled, ahead]
  exact List.filter_append_perm _ _

/-- The order an optimised run is put in lists its stops. -/
theorem optimised_perm (board : Board) (tripId : Nat) (start : Option Point) :
    (board.optimised cfg tripId start).Perm (board.onRun tripId) := by
  -- The finished stops come first and the others are put in order behind them.
  have ordered : (board.optimised cfg tripId start).Perm (board.settled tripId ++ board.ahead tripId) :=
    (sequenceStops_perm _ _ _ _).append_left _
  exact (ordered.trans (settled_ahead_perm board tripId)).trans (List.perm_insertionSort _ _)

/-- Stops numbered as they are listed are listed in the order of their numbers. -/
theorem numbered_increasing {ordered : List TripStop} (distinct : (ordered.map fun stop => stop.id).Nodup) :
    (ordered.map (TripStop.numbered (ordered.map fun stop => stop.id))).Pairwise
      fun one other => one.sequence < other.sequence := by
  -- Two stops of the list are compared by their positions.
  rw [List.pairwise_map, List.pairwise_iff_getElem]
  intro first second within inside before
  -- No id is listed twice, so a stop is numbered by where it stands and not by an earlier stop with its id.
  have at_ : ∀ (position : Nat) (inside : position < ordered.length),
      (TripStop.numbered (ordered.map fun stop => stop.id) ordered[position]).sequence = position + 1 := by
    intro position inside
    have mapped : position < (ordered.map fun stop => stop.id).length := by simpa using inside
    have own := distinct.idxOf_getElem position mapped
    rw [List.getElem_map] at own
    rw [numbered_sequence (List.mem_map_of_mem (List.getElem_mem inside)), own]
  rw [at_ first within, at_ second inside]
  omega

/-- Optimising puts the run's stops in the order it says. -/
theorem stopsOf_optimised {start : Option Point}
    (rows : later.stops.rows = board.stops.rows.map (TripStop.numbered
      ((board.optimised cfg tripId start).map fun stop => stop.id))) :
    later.stopsOf tripId = (board.optimised cfg tripId start).map (TripStop.numbered
      ((board.optimised cfg tripId start).map fun stop => stop.id)) := by
  -- The run's stops are those of the list, each at its own number, and numbers say the order.
  have all := @optimised_perm cfg board tripId start
  have distinct : ((board.optimised cfg tripId start).map fun stop => stop.id).Nodup := by
    rw [(all.map _).nodup_iff]
    exact board.stops.unique.sublist (List.filter_sublist.map _)
  refine stopsOf_eq ?_ (numbered_increasing distinct)
  rw [onRun_map rows (numbered_restamps _).tripId]
  exact all.map _

/-- What numbering leaves of a choice among stops by their status. -/
theorem filter_numbered (ids : List Nat) (test : StopStatus → Bool) (stops : List TripStop) :
    (stops.map (TripStop.numbered ids)).filter (fun stop => test stop.status) =
      (stops.filter fun stop => test stop.status).map (TripStop.numbered ids) := by
  -- Numbering leaves the status, so stops may be chosen before it or after.
  rw [List.filter_map]
  congr 2
  funext stop
  simp only [Function.comp, numbered_status]

/-- The order an optimised run is put in has what is finished first, in the order it had. -/
theorem optimised_settled (board : Board) (tripId : Nat) (start : Option Point) :
    ((board.optimised cfg tripId start).filter fun stop => terminalStopStatuses.contains stop.status) =
        board.settled tripId ∧
      (board.optimised cfg tripId start).filter TripStop.isOpen =
        sequenceStops cfg TripStop.leg (board.ahead tripId) start := by
  -- Every stop of the first half is finished, and every stop of the second is open.
  have closed : ∀ stop ∈ board.settled tripId, terminalStopStatuses.contains stop.status = true :=
    fun stop member => (List.mem_filter.mp member).2
  have opened : ∀ stop ∈ sequenceStops cfg TripStop.leg (board.ahead tripId) start,
      stop.isOpen = true := fun stop member => (mem_ahead.mp member).2
  have is_it : board.optimised cfg tripId start =
      board.settled tripId ++ sequenceStops cfg TripStop.leg (board.ahead tripId) start := rfl
  rw [is_it, List.filter_append, List.filter_append]
  constructor
  · -- Nothing that is ahead passes for finished.
    rw [List.filter_eq_self.mpr closed, List.filter_eq_nil_iff.mpr, List.append_nil]
    intro stop member finished
    have still := opened stop member
    rw [isOpen_eq, finished] at still
    cases still
  · -- Nothing that is finished passes for open.
    rw [List.filter_eq_self.mpr opened, List.filter_eq_nil_iff.mpr, List.nil_append]
    intro stop member still
    rw [isOpen_eq, closed stop member] at still
    cases still

end Ordered

section Created

variable {planned : List StopDraft} {ids : List Nat}

/-- The stops of a new run, under the serials they got. -/
def stopsPlanned (tripId : Nat) (planned : List StopDraft) (ids : List Nat) : List TripStop :=
  (planned.zipIdx.zip ids).map fun item => item.1.1.stop tripId item.1.2 item.2

/-- They are as many as were planned. -/
theorem stopsPlanned_length (long : ids.length = planned.length) :
    (stopsPlanned tripId planned ids).length = planned.length := by
  -- Each draft becomes one row.
  simp [stopsPlanned, long]

/-- They are what was drafted, in its order. -/
theorem stopsPlanned_draft (long : ids.length = planned.length) :
    (stopsPlanned tripId planned ids).map TripStop.draft = planned := by
  -- Each row is made from one draft, in its order, and there are ids enough for all.
  have drafted : (stopsPlanned tripId planned ids).map TripStop.draft =
      (planned.zipIdx.zip ids).map fun item => item.1.1 := by
    rw [stopsPlanned, List.map_map]
    rfl
  have first : ((planned.zipIdx.zip ids).map fun item => item.1.1) =
      ((planned.zipIdx.zip ids).map Prod.fst).map Prod.fst := by rw [List.map_map]; rfl
  have enough : planned.zipIdx.length ≤ ids.length := by rw [List.length_zipIdx, long]
  rw [drafted, first, List.map_fst_zip enough, List.zipIdx_map_fst]

/-- They are numbered from one on. -/
theorem stopsPlanned_sequence (long : ids.length = planned.length) :
    (stopsPlanned tripId planned ids).map (fun stop => stop.sequence) =
      List.range' 1 planned.length := by
  -- A stop reads its number off its position in the plan, whatever id it is given.
  have numbers : (stopsPlanned tripId planned ids).map (fun stop => stop.sequence) =
      ((planned.zipIdx.zip ids).map Prod.fst).map fun item => item.2 + 1 := by
    rw [stopsPlanned, List.map_map, List.map_map]
    rfl
  -- There is an id for every planned stop, so pairing them drops none.
  have enough : planned.zipIdx.length ≤ ids.length := by rw [List.length_zipIdx, long]
  rw [numbers, List.map_fst_zip enough]
  apply List.ext_getElem
  · simp
  · intro position _ _
    simp
    omega

/-- Planning a run leaves the stops of the others alone, and gives it those that were planned. -/
theorem onRun_createTrip {requester : Requester} {orderIds : List Nat} {driver : Option String}
    {vehicle : Option Nat} (rooted : board.Rooted)
    (done : createTrip cfg board requester orderIds driver vehicle = .ok later) :
    (∀ tripId, tripId ≠ board.trips.nextSerial → later.onRun tripId = board.onRun tripId) ∧
      ∃ ids : List Nat, ids.length = (board.planned cfg driver (board.named orderIds)).length ∧
        later.onRun board.trips.nextSerial = stopsPlanned board.trips.nextSerial
          (board.planned cfg driver (board.named orderIds)) ids := by
  obtain ⟨-, stops⟩ := createTrip_runs done
  obtain ⟨ids, long, rows⟩ := plannedStops_rows board.trips.nextSerial board.stops
    (board.planned cfg driver (board.named orderIds))
  rw [← stops] at rows
  have new : ∀ stop ∈ stopsPlanned board.trips.nextSerial
      (board.planned cfg driver (board.named orderIds)) ids, stop.tripId = board.trips.nextSerial := by
    intro stop member
    obtain ⟨_, -, rfl⟩ := List.mem_map.mp member
    rfl
  -- The new run's number is above those of all the others, so no stop of theirs is on it.
  have old : ∀ stop ∈ board.stops.rows, stop.tripId ≠ board.trips.nextSerial := by
    intro stop member
    obtain ⟨trip, is_run, own⟩ := rooted stop member
    exact own ▸ Nat.ne_of_lt (board.trips.lt_nextSerial is_run)
  have split : ∀ tripId, later.onRun tripId = board.onRun tripId ++ (stopsPlanned
      board.trips.nextSerial (board.planned cfg driver (board.named orderIds)) ids).filter
        fun stop => stop.tripId = tripId := by
    intro tripId
    unfold Board.onRun
    rw [rows, List.filter_append]
    rfl
  refine ⟨fun tripId apart => ?_, ids, long, ?_⟩
  · rw [split, List.filter_eq_nil_iff.mpr, List.append_nil]
    intro stop member on_run
    exact apart ((of_decide_eq_true on_run).symm.trans (new stop member))
  · rw [split, List.filter_eq_self.mpr fun stop member => decide_eq_true (new stop member)]
    unfold Board.onRun
    rw [List.filter_eq_nil_iff.mpr, List.nil_append]
    exact fun stop member on_run => old stop member (of_decide_eq_true on_run)

/-- A new run's stops are in the order they were planned in. -/
theorem stopsOf_createTrip {requester : Requester} {orderIds : List Nat} {driver : Option String}
    {vehicle : Option Nat} (rooted : board.Rooted)
    (done : createTrip cfg board requester orderIds driver vehicle = .ok later) :
    (later.stopsOf board.trips.nextSerial).map TripStop.draft =
      board.planned cfg driver (board.named orderIds) := by
  obtain ⟨-, ids, long, stops⟩ := onRun_createTrip rooted done
  -- The numbers are one, two, three and so on, which increase.
  have increasing : (stopsPlanned board.trips.nextSerial
      (board.planned cfg driver (board.named orderIds)) ids).Pairwise
        fun one other => one.sequence < other.sequence := by
    have numbers : ((stopsPlanned board.trips.nextSerial
        (board.planned cfg driver (board.named orderIds)) ids).map fun stop => stop.sequence).Pairwise
          (· < ·) := by
      rw [stopsPlanned_sequence long]
      exact List.pairwise_lt_range'
    exact List.pairwise_map.mp numbers
  -- Rows that are stored in the order of their numbers are read back as they are stored.
  rw [stopsOf_eq (stops ▸ List.Perm.refl _) increasing, stopsPlanned_draft long]

end Created

section Steps

variable {requester : Requester}

/-- Every stop is on a run that is there, and every run's stops are in sequence. -/
structure Board.Sequenced (board : Board) : Prop where
  rooted : board.Rooted
  inSequence : ∀ tripId, board.InSequence tripId

/-- A board with its stops in sequence, on which every run that was there has the stops it had. -/
structure Board.Continues (board later : Board) : Prop where
  sound : later.Sequenced
  same : ∀ tripId, (board.trip tripId).isSome = true →
    (later.onRun tripId).map (fun stop => stop.id) = (board.onRun tripId).map fun stop => stop.id

/-- Stops numbered as their ids are listed, as rows. -/
theorem rows_numbered {ids : List Nat} (stops : later.stops = numberedStops board.stops ids) :
    later.stops.rows = board.stops.rows.map (TripStop.numbered ids) := by
  -- Numbering is an UPDATE of every row.
  rw [stops, numberedStops_rows]
  rfl

/-- A change that leaves each stop on its run and under its id, and each run there and in sequence. -/
theorem Board.Sequenced.of_map (sound : board.Sequenced) {change : TripStop → TripStop}
    (keeps : Restamps change) (own : ∀ stop, (change stop).id = stop.id)
    (rows : later.stops.rows = board.stops.rows.map change)
    (trips : ∀ trip ∈ board.trips.rows, ∃ run ∈ later.trips.rows, run.id = trip.id)
    (numbers : ∀ tripId, later.InSequence tripId) : board.Continues later where
  sound := by
    refine ⟨fun stop member => ?_, numbers⟩
    -- A stop is still on the run it was on, and that run is still there.
    rw [rows] at member
    obtain ⟨old, listed, rfl⟩ := List.mem_map.mp member
    obtain ⟨trip, is_run, same⟩ := sound.rooted old listed
    obtain ⟨run, still, kept⟩ := trips trip is_run
    exact ⟨run, still, by rw [kept, same, keeps.tripId]⟩
  same := by
    -- No stop changes runs or ids, so each run lists the ids it listed.
    intro tripId _
    rw [onRun_map rows keeps.tripId, List.map_map]
    exact List.map_congr_left fun stop _ => own stop

/-- Numbering one run's stops anew leaves every run in sequence. -/
theorem continues_numbered (sound : board.Sequenced) {ids : List Nat} (trips : later.trips = board.trips)
    (stops : later.stops = numberedStops board.stops ids)
    (all : ((board.onRun tripId).map fun stop => stop.id).Perm ids) : board.Continues later := by
  have rows := rows_numbered stops
  refine sound.of_map (numbered_restamps ids) (fun stop => ?_) rows
    (fun trip is_run => ⟨trip, trips ▸ is_run, rfl⟩) fun other => ?_
  · -- The number is the only column that is written.
    unfold TripStop.numbered
    split <;> rfl
  · by_cases same : other = tripId
    · -- The run that is numbered gets one number for each place of the list.
      exact same ▸ inSequence_numbered rows all
    · -- The ids that are listed are another run's.
      refine inSequence_of_map rows (numbered_restamps ids).tripId (fun stop member => ?_)
        (sound.inSequence other)
      obtain ⟨listed, on_other⟩ := List.mem_filter.mp member
      have not_listed : stop.id ∉ ids := by
        intro among
        obtain ⟨numbered, is_on, alike⟩ := List.mem_map.mp (all.mem_iff.mpr among)
        obtain ⟨found, on_run⟩ := List.mem_filter.mp is_on
        obtain rfl := board.stops.same_row found listed alike
        exact same ((of_decide_eq_true on_other).symm.trans (of_decide_eq_true on_run))
      rw [TripStop.numbered, if_neg not_listed]

/-- A new run's stops are in sequence, and the others' are as they were. -/
theorem continues_createTrip {orderIds : List Nat} {driver : Option String} {vehicle : Option Nat}
    (sound : board.Sequenced)
    (done : createTrip cfg board requester orderIds driver vehicle = .ok later) :
    board.Continues later := by
  obtain ⟨trips, -⟩ := createTrip_runs done
  obtain ⟨others, ids, long, own⟩ := onRun_createTrip sound.rooted done
  refine ⟨⟨fun stop member => ?_, fun tripId => ?_⟩, fun tripId there => ?_⟩
  · -- Each stop is on a run: the new one for the new stops, and its own for the others.
    rw [trips]
    by_cases new : stop.tripId = board.trips.nextSerial
    · exact ⟨_, List.mem_append_right _ (List.mem_singleton_self _), new.symm⟩
    · -- A stop of another run was there before.
      have before : stop ∈ board.onRun stop.tripId := by
        rw [← others stop.tripId new]
        exact List.mem_filter.mpr ⟨member, decide_eq_true rfl⟩
      obtain ⟨trip, is_run, same⟩ := sound.rooted stop (List.mem_filter.mp before).1
      exact ⟨trip, List.mem_append_left _ is_run, same⟩
  · by_cases new : tripId = board.trips.nextSerial
    · -- The new run is numbered in the order it was planned in.
      subst new
      unfold Board.InSequence
      rw [own, stopsPlanned_sequence long, stopsPlanned_length long]
    · have before := sound.inSequence tripId
      unfold Board.InSequence at before ⊢
      rwa [others tripId new]
  · -- A run that is there already is older than the new one, so it keeps its stops.
    obtain ⟨trip, found⟩ := Option.isSome_iff_exists.mp there
    obtain ⟨is_run, named⟩ := Table.find?_eq_some.mp found
    rw [others tripId (named ▸ Nat.ne_of_lt (board.trips.lt_nextSerial is_run))]

/-- Optimising leaves every run in sequence. -/
theorem continues_optimiseTrip (sound : board.Sequenced)
    (done : optimiseTrip cfg board requester tripId = .ok later) : board.Continues later := by
  -- What is written is the numbers, along an order that lists the run's stops.
  obtain ⟨-, start, -, trips, stops⟩ := optimiseTrip_runs done
  exact continues_numbered sound trips stops ((optimised_perm board tripId start).symm.map _)

/-- So does an order given by hand. -/
theorem continues_reorderTrip {stopIds : List Nat} (sound : board.Sequenced)
    (done : reorderTrip board requester tripId stopIds = .ok later) : board.Continues later := by
  -- The ids that are asked for are those of the run's stops, each once.
  obtain ⟨trips, stops⟩ := reorderTrip_runs done
  have able := reorderTrip_ok_iff.mp ⟨later, done⟩
  have distinct : ((board.onRun tripId).map fun stop => stop.id).Nodup :=
    board.stops.unique.sublist (List.filter_sublist.map _)
  refine continues_numbered sound trips stops ((List.perm_ext_iff_of_nodup distinct able.distinct).mpr ?_)
  intro id
  rw [able.each id, List.mem_map]
  simp only [Board.onRun, List.mem_filter, decide_eq_true_eq, and_assoc]

/-- Changing a run numbers nothing. -/
theorem continues_updateTrip {driver : Option (Option String)} {vehicle : Option Nat}
    {status : Option TripStatus} (sound : board.Sequenced)
    (done : updateTrip board requester tripId driver vehicle status = .ok later) :
    board.Continues later := by
  obtain ⟨trip, -, trips, stops⟩ := updateTrip_runs done
  -- The status is all that a cancellation writes on a stop.
  have keeps : Restamps fun stop : TripStop =>
      if status = some TripStatus.cancelled ∧ stop.tripId = tripId ∧ stop.isOpen = true
      then stop.cancelled else stop := by
    constructor
    all_goals
      intro stop
      split <;> rfl
  refine sound.of_map keeps (fun stop => ?_) stops (fun run is_run => ?_) fun other =>
    inSequence_of_map stops keeps.tripId (fun stop _ => ?_) (sound.inSequence other)
  · -- Neither its id nor its number changes.
    split <;> rfl
  · refine ⟨_, trips ▸ List.mem_map_of_mem is_run, ?_⟩
    split <;> rfl
  · split <;> rfl

/-- Nor does working through it. -/
theorem continues_updateStop {stopId : Nat} {asked : Option StopStatus} {reason : Option String}
    (sound : board.Sequenced) (done : updateStop cfg board requester stopId asked reason = .ok later) :
    board.Continues later := by
  obtain ⟨stop, trip, status, -, stops, trips⟩ := updateStop_runs done
  -- What is written on the stop is its status and the reason, never its number.
  have keeps : Restamps fun row : TripStop =>
      if row.id = stopId then row.updated status (failureReasonOf reason) else row := by
    constructor
    all_goals
      intro row
      split <;> rfl
  refine sound.of_map keeps (fun stop => ?_) stops (fun run is_run => ?_) fun other =>
    inSequence_of_map stops keeps.tripId (fun stop _ => ?_) (sound.inSequence other)
  · split <;> rfl
  · refine ⟨_, trips ▸ List.mem_map_of_mem is_run, ?_⟩
    split <;> rfl
  · split <;> rfl

/-- What holds where nothing happens, and wherever a transaction is accepted, holds behind it. -/
theorem committed_holds {result : Except Failure Board} {holds : Board → Prop} (unchanged : holds board)
    (accepted : ∀ later, result = .ok later → holds later) : holds (committed board result) := by
  -- A request that was refused has been rolled back.
  cases result with
  | ok later => exact accepted later rfl
  | error failure => exact unchanged

/-- Every event leaves the stops in sequence, and every run the stops it has. -/
theorem continues_step (sound : board.Sequenced) (event : TripEvent) :
    board.Continues (tripStep cfg board event) := by
  -- A request that is refused leaves the board as it was.
  have unchanged : board.Continues board := ⟨sound, fun _ _ => rfl⟩
  cases event with
  | createTrip requester orderIds driver vehicle =>
    exact committed_holds unchanged fun _ done => continues_createTrip sound done
  | optimiseTrip requester tripId =>
    exact committed_holds unchanged fun _ done => continues_optimiseTrip sound done
  | reorderTrip requester tripId stopIds =>
    exact committed_holds unchanged fun _ done => continues_reorderTrip sound done
  | updateTrip requester tripId driver vehicle status =>
    exact committed_holds unchanged fun _ done => continues_updateTrip sound done
  | updateStop requester stopId status reason =>
    exact committed_holds unchanged fun _ done => continues_updateStop sound done
  | elsewhere orders users vehicles driverDocuments vehicleDocuments elapsed =>
    -- What other parts of the program write is neither a run nor a stop.
    exact ⟨⟨sound.rooted, sound.inSequence⟩, fun _ _ => rfl⟩

/-- The stops of an optimised run: those that are finished as they were, and then what is ahead in its order. -/
theorem stopsOf_numbered {start : Option Point} {ids : List Nat}
    (listed : ids = (board.optimised cfg tripId start).map fun stop => stop.id)
    (stops : later.stops = numberedStops board.stops ids) :
    later.stopsOf tripId = (board.optimised cfg tripId start).map (TripStop.numbered ids) ∧
      later.settled tripId = (board.settled tripId).map (TripStop.numbered ids) ∧
      later.ahead tripId =
        (sequenceStops cfg TripStop.leg (board.ahead tripId) start).map (TripStop.numbered ids) := by
  subst listed
  -- The whole run reads back in the order it was listed in, and each half of it is a filter of that.
  have ordered := @stopsOf_optimised cfg board later tripId start (rows_numbered stops)
  obtain ⟨finished, open_⟩ := @optimised_settled cfg board tripId start
  refine ⟨ordered, ?_, ?_⟩
  · -- A number changes no status, so the filter may be taken before the stops are numbered.
    rw [Board.settled, ordered, filter_numbered _ terminalStopStatuses.contains, finished]
  · rw [← open_, Board.ahead, ordered]
    exact filter_numbered _ openStopStatuses.contains _

/-- Optimising puts what is finished first, in the order it had. -/
theorem settled_optimiseTrip (done : optimiseTrip cfg board requester tripId = .ok later) :
    later.stopsOf tripId = later.settled tripId ++ later.ahead tripId ∧
      (later.settled tripId).map (fun stop => stop.id) =
        (board.settled tripId).map fun stop => stop.id := by
  obtain ⟨-, start, -, -, stops⟩ := optimiseTrip_runs done
  obtain ⟨ordered, settled, ahead⟩ := @stopsOf_numbered cfg board later tripId start _ rfl stops
  constructor
  · rw [settled, ahead, ← List.map_append, ordered]
    rfl
  · -- Numbering a stop leaves it its id.
    rw [settled, List.map_map]
    apply List.map_congr_left
    intro stop _
    unfold TripStop.numbered
    simp only [Function.comp]
    split <;> rfl

/-- Every event keeps the stops. -/
theorem keepsStops_step (sound : board.Sequenced) (event : TripEvent) : KeepsStops cfg board event := by
  -- Only planning and optimising say anything of the order the stops are in.
  refine ⟨(continues_step sound event).same, ?_⟩
  cases event with
  | createTrip requester orderIds driver vehicle =>
    intro later done
    rw [stopsOf_createTrip sound.rooted done]
    exact sequenceStops_perm _ _ _ _
  | optimiseTrip requester tripId => exact fun later done => settled_optimiseTrip done
  | reorderTrip | updateTrip | updateStop | elsewhere => trivial

end Steps

/-- However runs are planned, put in order and driven, their stops are numbered from one, and none is lost. -/
theorem stops_in_sequence {events : List TripEvent} (rooted : board.Rooted)
    (inSequence : ∀ tripId, board.InSequence tripId) :
    Throughout (tripStep cfg) (fun state => ∀ tripId, state.InSequence tripId) board events ∧
      Along (tripStep cfg) (KeepsStops cfg) board events := by
  have sound : board.Sequenced := ⟨rooted, inSequence⟩
  -- No condition is put on any event.
  have exact_ := @along_iff_of_invariant _ _ (tripStep cfg) Board.Sequenced
    (fun state => ∀ tripId, state.InSequence tripId) (KeepsStops cfg) (fun _ _ => True)
    (fun _ sound => sound.inSequence) (fun _ _ _ _ _ => trivial)
    (fun _ event sound _ => ⟨(continues_step sound event).sound, keepsStops_step sound event⟩)
    board events sound
  exact exact_.mpr (along_of_forall (fun _ _ => trivial) board events)

/-- A board with two orders waiting, one to the east of the other. -/
def twoWaiting : Board where
  orders := ⟨[
    { id := 1, pickup := some ⟨-2, 30⟩, delivery := some ⟨-1, 30⟩ },
    { id := 2, pickup := some ⟨-2, 31⟩, delivery := some ⟨-1, 31⟩ }], by decide⟩

/-- A run of both is planned, put in order by hand, and begun; what is left of it is optimised. -/
def plannedAndBegun : List TripEvent :=
  [.createTrip aDispatcher [1, 2] none none, .reorderTrip aDispatcher 1 [3, 2, 1, 4],
    .updateStop aDispatcher 3 (some .arrived) none, .updateStop aDispatcher 3 (some .done) none,
    .optimiseTrip aDispatcher 1]

/-- Its stops stay numbered from one, and optimising moves the drop that was put before its pickup. -/
theorem run_in_sequence :
    (Throughout (tripStep .kigali) (fun state => ∀ tripId, state.InSequence tripId) twoWaiting plannedAndBegun ∧
      Along (tripStep .kigali) (KeepsStops .kigali) twoWaiting plannedAndBegun) ∧
    ((run (tripStep .kigali) twoWaiting plannedAndBegun).stopsOf 1).map (fun stop => stop.id) = [3, 1, 2, 4] :=
  -- Nothing is on the board before the run is planned.
  ⟨stops_in_sequence (fun _ member => absurd member List.not_mem_nil) fun _ => List.Perm.refl _,
    by decide +kernel⟩

end Freight.Dispatch
