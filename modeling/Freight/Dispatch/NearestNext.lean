import Freight.Dispatch.InSequence

/-! Whether the plan of a run is one that can be driven, and drives to the nearest stop that can be next. -/

namespace Freight.Dispatch

variable {α : Type} {cfg : DispatchConfig} {leg : α → Leg} {aboard : Nat → Bool}

section Closer

/-- Nothing is closer than itself. -/
theorem closer_irrefl (distance : Option ℚ) : closer distance distance = false := by
  -- Unknown, it is closer than nothing; known, it is not less than itself.
  cases distance with
  | none => rfl
  | some metres => exact decide_eq_false (lt_irrefl metres)

/-- Of two distances one at most is closer. -/
theorem closer_asymm {one other : Option ℚ} (nearer : closer one other = true) :
    closer other one = false := by
  -- A distance that is not known is closer than none.
  cases one with
  | none => cases nearer
  | some first =>
    cases other with
    | none => rfl
    | some second =>
      have below : first < second := of_decide_eq_true nearer
      exact decide_eq_false (lt_asymm below)

/-- What is closer than something is closer than whatever is no closer than that. -/
theorem closer_of_closer {one best other : Option ℚ} (nearer : closer one best = true)
    (not_so : closer other best = false) : closer one other = true := by
  cases one with
  | none => cases nearer
  | some first =>
    cases other with
    | none => rfl
    | some second =>
      cases best with
      | none => cases not_so
      | some least =>
        -- A distance that is known is closer than one that is not, so only three known ones are left.
        have below : first < least := of_decide_eq_true nearer
        have above : ¬ second < least := of_decide_eq_false not_so
        exact decide_eq_true (lt_of_lt_of_le below (not_lt.mp above))

/-- No stop among those it is chosen from is closer than the nearest. -/
theorem nearest_closest {cursor : Option Point} {stops : List α} {best other : α}
    (chosen : nearest cfg leg cursor stops = some best) (member : other ∈ stops) :
    closer (metresBetween cfg cursor (leg other).place) (metresBetween cfg cursor (leg best).place) =
      false := by
  let metres := fun stop : α => metresBetween cfg cursor (leg stop).place
  let pick := fun best candidate : α => if closer (metres candidate) (metres best) then candidate else best
  -- A pick of two is no further than either.
  have picked : ∀ held first : α, closer (metres held) (metres (pick held first)) = false ∧
      closer (metres first) (metres (pick held first)) = false := by
    intro held first
    by_cases nearer : closer (metres first) (metres held) = true
    · simp only [pick, if_pos nearer]
      exact ⟨closer_asymm nearer, closer_irrefl _⟩
    · simp only [pick, if_neg nearer]
      exact ⟨closer_irrefl _, Bool.not_eq_true _ ▸ nearer⟩
  have holds : ∀ (others : List α) (held : α), ∀ other ∈ held :: others,
      closer (metres other) (metres (others.foldl pick held)) = false := by
    intro others
    induction others with
    | nil =>
      intro held other among
      rw [List.mem_singleton.mp among]
      exact closer_irrefl _
    | cons first rest ih =>
      intro held other among
      rw [List.foldl_cons]
      obtain ⟨passes_held, passes_first⟩ := picked held first
      have last := ih (pick held first) (pick held first) List.mem_cons_self
      -- What is no closer than a pick is no closer than what is picked later.
      have through : ∀ stop, closer (metres stop) (metres (pick held first)) = false →
          closer (metres stop) (metres (rest.foldl pick (pick held first))) = false := by
        intro stop not_closer
        by_contra nearer
        rw [closer_of_closer (Bool.not_eq_false _ ▸ nearer) last] at not_closer
        cases not_closer
      rcases List.mem_cons.mp among with rfl | later
      · exact through other passes_held
      · rcases List.mem_cons.mp later with rfl | behind
        · exact through other passes_first
        · exact ih (pick held first) other (List.mem_cons_of_mem _ behind)
  cases stops with
  | nil => cases member
  | cons first rest =>
    cases chosen
    exact holds rest first other member

end Closer

section Valid

/-- A stop at which an order's load is collected. -/
def Leg.collects (leg : Leg) (orderId : Nat) : Prop := leg.kind = .pickup ∧ leg.orderId = orderId

/-- Where a route begins: with the orders aboard whose pickups are finished. -/
def routeStart (leg : α → Leg) (stops : List α) (start : Option Point) : RouteState where
  pickedUpOrders := (stops.filter fun stop =>
    (leg stop).kind = .pickup && terminalStopStatuses.contains (leg stop).status).map
      fun stop => (leg stop).orderId
  cursor := start

variable [DecidableEq α]

/-- The loop of `sequenceStops`, cut off after some rounds. -/
def sequenceRounds (cfg : DispatchConfig) (leg : α → Leg) (rounds : Nat) (stops : List α)
    (start : Option Point) : List α :=
  greedy (RouteState.eligible leg) (fun route => nearest cfg leg route.cursor) (RouteState.visit leg)
    rounds (routeStart leg stops start) stops

/--
Stops are put in an order that can be driven: the loop ends, with every stop in the order as often as it
was listed, a drop behind a pickup of its order where none of those is finished, and a drop whose pickup
is not listed among the others.
-/
theorem sequenceStops_valid (cfg : DispatchConfig) (leg : α → Leg) (stops : List α)
    (start : Option Point) :
    (∀ rounds, stops.length ≤ rounds →
      sequenceRounds cfg leg rounds stops start = sequenceStops cfg leg stops start) ∧
    (sequenceStops cfg leg stops start).Perm stops ∧
    (∀ orderId, (∃ pickup ∈ stops, (leg pickup).collects orderId) →
      (∀ pickup ∈ stops, (leg pickup).collects orderId →
        terminalStopStatuses.contains (leg pickup).status = false) →
      ∀ before drop behind, sequenceStops cfg leg stops start = before ++ drop :: behind →
        (leg drop).kind = .drop → (leg drop).orderId = orderId →
          ∃ pickup ∈ before, (leg pickup).collects orderId) ∧
    ∀ drop ∈ stops, (leg drop).kind = .drop →
      (∀ pickup ∈ stops, ¬ (leg pickup).collects (leg drop).orderId) →
        drop ∈ sequenceStops cfg leg stops start := by
  refine ⟨fun rounds enough => greedy_enough nearest_chooses enough, sequenceStops_perm _ _ _ _, ?_,
    fun drop member _ _ => (sequenceStops_perm _ _ _ _).mem_iff.mpr member⟩
  intro orderId there unfinished before drop behind split is_drop own
  have always : ∀ (route : RouteState) (pickup : α), (leg pickup).collects orderId →
      route.eligible leg pickup = true := by
    intro route pickup is_it
    simp [RouteState.eligible, is_it.1]
  -- The drop waits as long as its order is not among those picked up.
  have blocked : ∀ route : RouteState, orderId ∉ route.pickedUpOrders →
      route.eligible leg drop = false := by
    intro route waits
    simp [RouteState.eligible, is_drop, own, waits]
  have stays : ∀ route : RouteState, ∀ other ∈ stops, orderId ∉ route.pickedUpOrders →
      ¬ (leg other).collects orderId → orderId ∉ (route.visit leg other).pickedUpOrders := by
    intro route other _ waits not_it
    unfold RouteState.visit
    split
    · rename_i collects
      rw [List.mem_cons, not_or]
      exact ⟨fun its => not_it ⟨collects, its.symm⟩, waits⟩
    · exact waits
  have waits : orderId ∉ (routeStart leg stops start).pickedUpOrders := by
    intro collected
    obtain ⟨pickup, member, its⟩ := List.mem_map.mp collected
    obtain ⟨listed, closed⟩ := List.mem_filter.mp member
    simp only [Bool.and_eq_true, decide_eq_true_eq] at closed
    rw [unfinished pickup listed ⟨closed.1, its⟩] at closed
    cases closed.2
  exact greedy_behind nearest_chooses always blocked stays (List.Subset.refl _) waits there split

end Valid

section Nearest

/-- A stop can be driven to next: nothing has to be collected for it, or what has to be is aboard. -/
def RouteState.drivable (leg : α → Leg) (aboard : Nat → Bool) (route : RouteState) (stop : α) : Bool :=
  route.eligible leg stop || aboard (leg stop).orderId

/-- Each stop of a plan can be driven to when its turn comes, and none that can be is nearer. -/
def NearestNext (cfg : DispatchConfig) (leg : α → Leg) (aboard : Nat → Bool) :
    RouteState → List α → Prop
  | _, [] => True
  | route, stop :: behind =>
    -- It may be driven to.
    route.drivable leg aboard stop = true ∧
    -- Nothing else that may be is closer.
    (∀ other ∈ behind, route.drivable leg aboard other = true →
      closer (metresBetween cfg route.cursor (leg other).place)
        (metresBetween cfg route.cursor (leg stop).place) = false) ∧
    NearestNext cfg leg aboard (route.visit leg stop) behind

/-- Whether a plan is of that kind is decided stop by stop. -/
instance NearestNext.decidable (cfg : DispatchConfig) (leg : α → Leg) (aboard : Nat → Bool) :
    (route : RouteState) → (plan : List α) → Decidable (NearestNext cfg leg aboard route plan)
  | _, [] => inferInstanceAs (Decidable True)
  | route, stop :: behind =>
    have := NearestNext.decidable cfg leg aboard (route.visit leg stop) behind
    inferInstanceAs (Decidable (_ ∧ (∀ other ∈ behind, _ → _) ∧ _))

/-- Every stop can be driven to in the end: what has to be collected for it is aboard, or is on the plan. -/
def Deliverable (leg : α → Leg) (aboard : Nat → Bool) (route : RouteState) (stops : List α) : Prop :=
  ∀ stop ∈ stops, route.drivable leg aboard stop = true ∨
    ∃ pickup ∈ stops, (leg pickup).collects (leg stop).orderId

/--
A turn of the loop that passes over a load aboard: some stop is eligible, and a stop that can be driven to
is nearer than every one that is.
-/
def PassesOver (cfg : DispatchConfig) (leg : α → Leg) (aboard : Nat → Bool) (route : RouteState)
    (left : List α) : Prop :=
  (∃ stop ∈ left, route.eligible leg stop = true) ∧
    ∃ load ∈ left, route.drivable leg aboard load = true ∧
      ∀ stop ∈ left, route.eligible leg stop = true →
        closer (metresBetween cfg route.cursor (leg load).place)
          (metresBetween cfg route.cursor (leg stop).place) = true

/-- Whether a turn passes over a load is decided stop by stop. -/
instance (cfg : DispatchConfig) (leg : α → Leg) (aboard : Nat → Bool) (route : RouteState)
    (left : List α) : Decidable (PassesOver cfg leg aboard route left) :=
  inferInstanceAs (Decidable ((∃ stop ∈ left, _) ∧ ∃ load ∈ left, _ ∧ ∀ stop ∈ left, _ → _))

variable {route : RouteState}

/-- What is eligible can be driven to. -/
theorem drivable_of_eligible {stop : α} (eligible : route.eligible leg stop = true) :
    route.drivable leg aboard stop = true := by
  -- It is the first of the two ways to be drivable.
  rw [RouteState.drivable, eligible, Bool.true_or]

/-- What can be driven to can be driven to later. -/
theorem drivable_visit {stop next : α} (now : route.drivable leg aboard stop = true) :
    (route.visit leg next).drivable leg aboard stop = true := by
  -- Visiting a stop takes nothing back that has been collected.
  simp only [RouteState.drivable, RouteState.eligible, Bool.or_eq_true, decide_eq_true_eq,
    List.contains_iff_mem] at now ⊢
  refine now.imp_left (Or.imp_right fun collected => ?_)
  unfold RouteState.visit
  split
  · exact List.mem_cons_of_mem _ collected
  · exact collected

/-- What can be driven to behind a stop could be before it, unless that is where its load is collected. -/
theorem drivable_of_visit {stop next : α} (after : (route.visit leg next).drivable leg aboard stop = true) :
    route.drivable leg aboard stop = true ∨ (leg next).collects (leg stop).orderId := by
  simp only [RouteState.drivable, RouteState.eligible, Bool.or_eq_true, decide_eq_true_eq,
    List.contains_iff_mem] at after ⊢
  unfold RouteState.visit at after
  -- A stop can be driven to as a pickup, with its load collected on the way, or with it aboard.
  rcases after with (is_pickup | collected) | loaded
  · exact .inl (.inl (.inl is_pickup))
  · split at collected
    · rename_i collects
      rcases List.mem_cons.mp collected with now | before
      · exact .inr ⟨collects, now.symm⟩
      · exact .inl (.inl (.inr before))
    · exact .inl (.inl (.inr collected))
  · exact .inl (.inr loaded)

/-- The nearest stop is one that may be taken. -/
theorem taken_of_nearest {left : List α} {next : α} (chosen : nearest cfg leg route.cursor
      (takeable (RouteState.eligible leg) route left) = some next) :
    next ∈ takeable (RouteState.eligible leg) route left :=
  @Chooses.among _ _ _ (@nearest_chooses _ cfg leg) route _ _ chosen

/-- The stop that is taken is the nearest that can be driven to exactly when no load is passed over. -/
theorem nearest_taken_iff {left : List α} {next : α} (chosen : nearest cfg leg route.cursor
      (takeable (RouteState.eligible leg) route left) = some next) :
    (∀ other ∈ left, route.drivable leg aboard other = true →
      closer (metresBetween cfg route.cursor (leg other).place)
        (metresBetween cfg route.cursor (leg next).place) = false) ↔
      ¬ PassesOver cfg leg aboard route left := by
  have taken := taken_of_nearest chosen
  constructor
  · -- Some stop is eligible, so the next one is, and the load that is passed over is nearer than it.
    rintro none_nearer ⟨⟨stop, listed, eligible⟩, load, among, able, nearer⟩
    have is_eligible := free_of_takeable taken listed eligible
    have closer_than_next := nearer next (mem_of_takeable taken) is_eligible
    rw [none_nearer load among able] at closer_than_next
    cases closer_than_next
  · intro none_passed other listed able
    by_contra nearer
    rw [Bool.not_eq_false] at nearer
    by_cases some_eligible : ∃ stop ∈ left, route.eligible leg stop = true
    · -- What is nearer than the nearest eligible one is nearer than all of them.
      refine none_passed ⟨some_eligible, other, listed, able, fun stop among eligible => ?_⟩
      exact closer_of_closer nearer (nearest_closest chosen (takeable_of_free among eligible))
    · -- With none eligible the nearest is taken of all, and nothing is nearer than it.
      rw [takeable_of_none some_eligible] at chosen
      rw [nearest_closest chosen listed] at nearer
      cases nearer

variable [DecidableEq α]

/-- Every stop can be driven to in the end exactly when the next one can, and then each of the others. -/
theorem deliverable_iff {left : List α} {next : α} (member : next ∈ left)
    (now : Deliverable leg aboard route left → route.drivable leg aboard next = true) :
    Deliverable leg aboard route left ↔ route.drivable leg aboard next = true ∧
      Deliverable leg aboard (route.visit leg next) (left.erase next) := by
  constructor
  · intro all
    refine ⟨now all, fun stop kept => ?_⟩
    -- A stop that could be driven to still can; its pickup may be the one that is made.
    rcases all stop (List.mem_of_mem_erase kept) with able | ⟨pickup, listed, collects⟩
    · exact .inl (drivable_visit able)
    · by_cases same : pickup = next
      · -- The load is collected at the next stop.
        left
        subst same
        simp [RouteState.drivable, RouteState.eligible, RouteState.visit, collects.1, collects.2]
      · exact .inr ⟨pickup, (List.mem_erase_of_ne same).mpr listed, collects⟩
  · rintro ⟨able, rest⟩ stop listed
    -- The stop is the next one, or one of those that are left.
    by_cases same : stop = next
    · exact .inl (same ▸ able)
    · rcases rest stop ((List.mem_erase_of_ne same).mpr listed) with later | ⟨pickup, kept, collects⟩
      · exact (drivable_of_visit later).imp_right fun collects => ⟨next, member, collects⟩
      · exact .inr ⟨pickup, List.mem_of_mem_erase kept, collects⟩

/--
The loop drives to the nearest stop it can, at every turn, exactly when every stop can be driven to in the
end and no turn passes over a load that is aboard.
-/
theorem nearestNext_iff {rounds : Nat} {left : List α} (enough : left.length ≤ rounds) :
    NearestNext cfg leg aboard route (greedy (RouteState.eligible leg)
      (fun route => nearest cfg leg route.cursor) (RouteState.visit leg) rounds route left) ↔
    Deliverable leg aboard route left ∧ EveryTurn (RouteState.eligible leg)
      (fun route => nearest cfg leg route.cursor) (RouteState.visit leg)
      (fun route left => ¬ PassesOver cfg leg aboard route left) rounds route left := by
  -- A round drives to one stop, and leaves the others to the rounds behind it.
  induction rounds generalizing route left with
  | zero =>
    rw [List.length_eq_zero_iff.mp (Nat.le_zero.mp enough)]
    simp [greedy, NearestNext, Deliverable, EveryTurn]
  | succ rounds ih =>
    simp only [greedy, EveryTurn]
    cases chosen : nearest cfg leg route.cursor (takeable (RouteState.eligible leg) route left) with
    | none =>
      have nothing : left = [] := by
        by_contra some_left
        have picks := (@nearest_chooses _ cfg leg).some_ route _
          (@takeable_ne_nil _ _ (RouteState.eligible leg) route left some_left)
        rw [chosen] at picks
        cases picks
      rw [nothing]
      simp [NearestNext, Deliverable]
    | some next =>
      have taken := taken_of_nearest chosen
      have member := mem_of_takeable taken
      have fewer : (left.erase next).length ≤ rounds := by
        rw [List.length_erase_of_mem member]
        omega
      have others : (greedy (RouteState.eligible leg) (fun route => nearest cfg leg route.cursor)
          (RouteState.visit leg) rounds (route.visit leg next) (left.erase next)).Perm (left.erase next) :=
        greedy_perm nearest_chooses fewer
      -- A stop that is taken while none is eligible is one nothing is left to be collected for.
      have now : Deliverable leg aboard route left → route.drivable leg aboard next = true := by
        intro all
        by_cases some_eligible : ∃ stop ∈ left, route.eligible leg stop = true
        · obtain ⟨stop, listed, eligible⟩ := some_eligible
          exact drivable_of_eligible (free_of_takeable taken listed eligible)
        · refine (all next member).resolve_right ?_
          rintro ⟨pickup, listed, collects⟩
          exact some_eligible ⟨pickup, listed, by simp [RouteState.eligible, collects.1]⟩
      have turn : (∀ other ∈ greedy (RouteState.eligible leg) (fun route => nearest cfg leg route.cursor)
            (RouteState.visit leg) rounds (route.visit leg next) (left.erase next),
          route.drivable leg aboard other = true →
            closer (metresBetween cfg route.cursor (leg other).place)
              (metresBetween cfg route.cursor (leg next).place) = false) ↔
          ¬ PassesOver cfg leg aboard route left := by
        rw [← nearest_taken_iff chosen]
        constructor
        · intro each other listed able
          by_cases same : other = next
          · rw [same]
            exact closer_irrefl _
          · exact each other (others.mem_iff.mpr ((List.mem_erase_of_ne same).mpr listed)) able
        · exact fun each other listed able =>
            each other (List.mem_of_mem_erase (others.mem_iff.mp listed)) able
      simp only [NearestNext, turn, ih fewer]
      rw [deliverable_iff member now]
      constructor
      · rintro ⟨able, none_over, delivered, every⟩
        exact ⟨⟨able, delivered⟩, none_over, every⟩
      · rintro ⟨⟨able, delivered⟩, none_over, every⟩
        exact ⟨able, none_over, delivered, every⟩

/-- No turn of putting some stops in order passes over a load that is aboard. -/
def NonePassedOver (cfg : DispatchConfig) (leg : α → Leg) (aboard : Nat → Bool) (stops : List α)
    (start : Option Point) : Prop :=
  EveryTurn (RouteState.eligible leg) (fun route => nearest cfg leg route.cursor) (RouteState.visit leg)
    (fun route left => ¬ PassesOver cfg leg aboard route left) stops.length
    { pickedUpOrders := [], cursor := start } stops

/-- Stops that are all open are put in an order that goes to the nearest next, exactly where it may. -/
theorem sequenceStops_nearestNext_iff {stops : List α} {start : Option Point}
    (unfinished : ∀ stop ∈ stops, terminalStopStatuses.contains (leg stop).status = false) :
    NearestNext cfg leg aboard { pickedUpOrders := [], cursor := start }
        (sequenceStops cfg leg stops start) ↔
      Deliverable leg aboard { pickedUpOrders := [], cursor := start } stops ∧
        NonePassedOver cfg leg aboard stops start := by
  -- No pickup is finished, so no order counts as picked up to begin with.
  have begins : routeStart leg stops start = { pickedUpOrders := [], cursor := start } := by
    unfold routeStart
    rw [List.filter_eq_nil_iff.mpr, List.map_nil]
    intro stop member finished
    rw [unfinished stop member, Bool.and_false] at finished
    cases finished
  have is_it : sequenceStops cfg leg stops start = sequenceRounds cfg leg stops.length stops start := rfl
  rw [is_it, sequenceRounds, begins]
  exact nearestNext_iff (Nat.le_refl _)

end Nearest

section Same

variable {β : Type} {other : β → Leg} {alike : α → β}

/-- Whether a plan goes to the nearest next is decided by the kinds, orders and places of its stops. -/
theorem nearestNext_map (same : ∀ stop, (other (alike stop)).kind = (leg stop).kind ∧
      (other (alike stop)).orderId = (leg stop).orderId ∧ (other (alike stop)).place = (leg stop).place)
    {route : RouteState} {plan : List α} :
    NearestNext cfg other aboard route (plan.map alike) ↔ NearestNext cfg leg aboard route plan := by
  induction plan generalizing route with
  | nil => exact Iff.rfl
  | cons stop behind ih =>
    -- Whether a stop can be driven to is asked of its kind and its order.
    have drives : ∀ stop, route.drivable other aboard (alike stop) = route.drivable leg aboard stop := by
      intro stop
      obtain ⟨kind, order, -⟩ := same stop
      simp only [RouteState.drivable, RouteState.eligible, kind, order]
    have visits : route.visit other (alike stop) = route.visit leg stop := by
      obtain ⟨kind, order, place⟩ := same stop
      simp only [RouteState.visit, kind, order, place]
    simp only [List.map_cons, NearestNext, List.forall_mem_map, drives, visits, (same _).2.2, ih]

end Same

section Plans

variable {board later : Board} {requester : Requester}

/-- The loads of some orders that are aboard before a run is planned for them. -/
def Board.collected (board : Board) (orderIds : List Nat) (orderId : Nat) : Bool :=
  (board.named orderIds).any fun order =>
    order.id = orderId && collectedStatuses.contains order.status

/-- The load of an order is aboard on a run: its pickup is done, or none was ever planned. -/
def Board.loadedOn (board : Board) (tripId orderId : Nat) : Bool :=
  let pickups := (board.onRun tripId).filter fun stop => stop.kind = .pickup && stop.orderId = orderId
  pickups.isEmpty || pickups.any fun stop => stop.status = .done

/-- Where a new run starts. -/
def Board.createStart (cfg : DispatchConfig) (board : Board) (driver : Option String)
    (orderIds : List Nat) : Option Point :=
  startingPoint cfg board driver
    (((board.named orderIds).flatMap DispatchOrder.draft).head?.bind StopDraft.place)

/-- Where an optimised run goes on from. -/
def Board.optimiseStart (cfg : DispatchConfig) (board : Board) (trip : Trip) : Option Point :=
  startingPoint cfg board trip.driverUsername
    (((board.settled trip.id).getLast?.or (board.ahead trip.id).head?).bind TripStop.place)

/-- The new run goes to the nearest stop next, at every stop of it. -/
def Board.CreatedNearestNext (cfg : DispatchConfig) (board : Board) (driver : Option String)
    (orderIds : List Nat) (later : Board) : Prop :=
  NearestNext cfg TripStop.leg (board.collected orderIds)
    { pickedUpOrders := [], cursor := board.createStart cfg driver orderIds }
    (later.stopsOf board.trips.nextSerial)

/-- What is ahead on the optimised run goes to the nearest stop next, at every stop of it. -/
def Board.OptimisedNearestNext (cfg : DispatchConfig) (board : Board) (trip : Trip) (later : Board) : Prop :=
  NearestNext cfg TripStop.leg (board.loadedOn trip.id)
    { pickedUpOrders := [], cursor := board.optimiseStart cfg trip } (later.ahead trip.id)

/-- The drops of a new run are of orders whose loads are aboard, or are collected on it. -/
theorem deliverable_draft (board : Board) (orderIds : List Nat) (route : RouteState) :
    Deliverable StopDraft.leg (board.collected orderIds) route
      ((board.named orderIds).flatMap DispatchOrder.draft) := by
  intro draft member
  obtain ⟨order, named, drawn⟩ := List.mem_flatMap.mp member
  have own := draft_own drawn
  by_cases loaded : collectedStatuses.contains order.status = true
  · left
    have aboard : board.collected orderIds draft.orderId = true := by
      refine List.any_eq_true.mpr ⟨order, named, ?_⟩
      rw [own, loaded]
      simp
    have same : (StopDraft.leg draft).orderId = draft.orderId := rfl
    rw [RouteState.drivable, same, aboard, Bool.or_true]
  · -- The first of the two stops the order needs is its pickup.
    right
    refine ⟨{ orderId := order.id, kind := .pickup, place := order.pickup }, ?_, rfl, own.symm⟩
    refine List.mem_flatMap.mpr ⟨order, named, ?_⟩
    simp only [DispatchOrder.draft, if_neg loaded]
    exact List.mem_cons_self

/-- Optimising numbers the stops in the order it puts them in from where the run goes on. -/
theorem optimiseTrip_stops {trip : Trip} (there : board.trip trip.id = some trip)
    (done : optimiseTrip cfg board requester trip.id = .ok later) :
    later.stops = numberedStops board.stops ((board.optimised cfg trip.id
      (board.optimiseStart cfg trip)).map fun stop => stop.id) := by
  -- The handler reads the run it was asked about.
  obtain ⟨-, found, is_found, -, rfl⟩ := optimiseTrip_accepted.mp done
  obtain rfl := Option.some.inj (there.symm.trans is_found)
  rfl

/--
A new run goes to the nearest stop next exactly when no turn of planning it passes over a load that is
aboard; an optimised run does exactly when, besides, no drop is ahead whose load cannot be collected any
more.
-/
theorem plans_nearest_next_iff (cfg : DispatchConfig) (board : Board) (rooted : board.Rooted) :
    (∀ requester orderIds driver vehicle later,
      createTrip cfg board requester orderIds driver vehicle = .ok later →
        (board.CreatedNearestNext cfg driver orderIds later ↔
          NonePassedOver cfg StopDraft.leg (board.collected orderIds)
            ((board.named orderIds).flatMap DispatchOrder.draft) (board.createStart cfg driver orderIds))) ∧
    ∀ requester trip later, board.trip trip.id = some trip →
      optimiseTrip cfg board requester trip.id = .ok later →
        (board.OptimisedNearestNext cfg trip later ↔
          Deliverable TripStop.leg (board.loadedOn trip.id)
            { pickedUpOrders := [], cursor := board.optimiseStart cfg trip } (board.ahead trip.id) ∧
          NonePassedOver cfg TripStop.leg (board.loadedOn trip.id) (board.ahead trip.id)
            (board.optimiseStart cfg trip)) := by
  -- Both plans are what the sequencer makes of stops that are all open, numbered afterwards.
  constructor
  · intro requester orderIds driver vehicle later done
    have drafted := @nearestNext_map _ cfg TripStop.leg (board.collected orderIds) _ StopDraft.leg
      TripStop.draft (fun _ => ⟨rfl, rfl, rfl⟩)
      { pickedUpOrders := [], cursor := board.createStart cfg driver orderIds }
      (later.stopsOf board.trips.nextSerial)
    rw [Board.CreatedNearestNext, ← drafted, stopsOf_createTrip rooted done]
    exact (sequenceStops_nearestNext_iff fun _ _ => rfl).trans
      (and_iff_right (deliverable_draft board orderIds _))
  · intro requester trip later there done
    obtain ⟨-, -, ahead⟩ := stopsOf_numbered rfl (optimiseTrip_stops there done)
    have numbered := numbered_restamps ((board.optimised cfg trip.id
      (board.optimiseStart cfg trip)).map fun stop => stop.id)
    rw [Board.OptimisedNearestNext, ahead]
    refine (nearestNext_map fun stop => ⟨numbered.kind stop, numbered.orderId stop, ?_⟩).trans
      (sequenceStops_nearestNext_iff fun stop member => ?_)
    · show (TripStop.numbered _ stop).place = stop.place
      unfold TripStop.numbered
      split <;> rfl
    · exact isOpen_iff.mp (List.mem_filter.mp member).2

/-- A load is aboard on a run that is to collect another, and a second load, on no run, is on another lorry. -/
def loadsAboard : Board where
  orders := ⟨[{ id := 1, status := .pickedUp }, { id := 2 },
    { id := 3, pickup := some ⟨-2, 30⟩, delivery := some ⟨-1, 30⟩ },
    { id := 4, status := .pickedUp, delivery := some ⟨-1, 31⟩ }], by decide⟩
  trips := ⟨[{ id := 1, driverUsername := none, status := .active }], by decide⟩
  stops := ⟨[
    { id := 1, tripId := 1, orderId := 1, kind := .pickup, sequence := 1, place := some ⟨-2, 30⟩
      status := .done },
    { id := 2, tripId := 1, orderId := 1, kind := .drop, sequence := 2, place := some ⟨-1, 31⟩ },
    { id := 3, tripId := 1, orderId := 2, kind := .drop, sequence := 3, place := some ⟨-1, 32⟩ },
    { id := 4, tripId := 1, orderId := 2, kind := .pickup, sequence := 4, place := some ⟨-2, 31⟩ }],
    by decide⟩

/-- A run is planned with the one load aboard, the other is optimised, and both go to the nearest stop next. -/
theorem one_waiting_nearest_next :
    (∃ later, createTrip .kigali loadsAboard aDispatcher [3, 4] none none = .ok later ∧
      loadsAboard.CreatedNearestNext .kigali none [3, 4] later) ∧
    ∃ later, optimiseTrip .kigali loadsAboard aDispatcher 1 = .ok later ∧
      loadsAboard.OptimisedNearestNext .kigali { id := 1, driverUsername := none, status := .active } later := by
  have rooted : loadsAboard.Rooted := by
    unfold Board.Rooted
    decide
  -- In each plan the load that is aboard lies further off than the stop that is driven to.
  obtain ⟨created, optimised⟩ := plans_nearest_next_iff .kigali loadsAboard rooted
  refine ⟨⟨_, rfl, (created aDispatcher [3, 4] none none _ rfl).mpr ?_⟩,
    ⟨_, rfl, (optimised aDispatcher { id := 1, driverUsername := none, status := .active } _ rfl rfl).mpr ⟨?_, ?_⟩⟩⟩
  · unfold NonePassedOver
    decide +kernel
  · unfold Deliverable Leg.collects
    decide +kernel
  · unfold NonePassedOver
    decide +kernel

/-- One load is aboard, to be dropped where the run starts, and another is to be collected far off. -/
def loadAboard : Board where
  orders := ⟨[
    { id := 1, status := .pickedUp, delivery := some ⟨-2, 30⟩ },
    { id := 2, pickup := some ⟨-1, 30⟩, delivery := some ⟨-1, 30⟩ }], by decide⟩

/-- The same, on a run on which the first load has been collected. -/
def loadCollected : Board where
  orders := ⟨[{ id := 1, status := .pickedUp }, { id := 2 }], by decide⟩
  trips := ⟨[{ id := 1, driverUsername := none, status := .active }], by decide⟩
  stops := ⟨[
    { id := 1, tripId := 1, orderId := 1, kind := .pickup, sequence := 1, place := some ⟨-2, 30⟩
      status := .done },
    { id := 2, tripId := 1, orderId := 1, kind := .drop, sequence := 2, place := some ⟨-2, 30⟩ },
    { id := 3, tripId := 1, orderId := 2, kind := .pickup, sequence := 3, place := some ⟨-1, 30⟩ },
    { id := 4, tripId := 1, orderId := 2, kind := .drop, sequence := 4, place := some ⟨-1, 30⟩ }],
    by decide⟩

/-- A load that is aboard waits for another to be collected, however near it is to be dropped. -/
theorem load_passed_over :
    (∃ later, createTrip .kigali loadAboard aDispatcher [1, 2] none none = .ok later ∧
      ¬ loadAboard.CreatedNearestNext .kigali none [1, 2] later) ∧
    ∃ later, optimiseTrip .kigali loadCollected aDispatcher 1 = .ok later ∧
      ¬ loadCollected.OptimisedNearestNext .kigali
        { id := 1, driverUsername := none, status := .active } later := by
  -- In each plan the drop of the load aboard is the nearest stop of all, and comes later.
  unfold Board.CreatedNearestNext Board.OptimisedNearestNext
  refine ⟨⟨_, rfl, ?_⟩, ⟨_, rfl, ?_⟩⟩ <;> decide +kernel

end Plans

end Freight.Dispatch
