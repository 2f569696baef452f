import Freight.Dispatch.Board
import Freight.Library.Greedy

/-! Putting the stops of a run in order: the nearest one next, and no drop before its own pickup. -/

namespace Freight.Dispatch

variable {α : Type}

/-- `TERMINAL_STOP_STATUSES`. -/
def terminalStopStatuses : List StopStatus := [.done, .failed, .skipped]

/-- What a stop is put in order by. -/
structure Leg where
  orderId : Nat
  kind : StopKind
  place : Option Point
  status : StopStatus

/-- `haversineMetres`: infinite, which is to say absent, where either end has no coordinates. -/
def metresBetween (cfg : DispatchConfig) (one other : Option Point) : Option ℚ := do
  return cfg.haversineMetres (← one) (← other)

/-- `distance < bestDistance`. -/
def closer : Option ℚ → Option ℚ → Bool
  | some distance, some bestDistance => distance < bestDistance
  | some _, none => true
  | none, _ => false

/-- The nearest of some stops, and the first of those as near. -/
def nearest (cfg : DispatchConfig) (leg : α → Leg) (cursor : Option Point) : List α → Option α
  | [] => none
  | first :: rest => some <| rest.foldl (fun best candidate =>
      if closer (metresBetween cfg cursor (leg candidate).place) (metresBetween cfg cursor (leg best).place)
      then candidate else best) first

/-- How far a route has got: the orders aboard, and the place it has reached. -/
structure RouteState where
  pickedUpOrders : List Nat
  cursor : Option Point

/-- A stop may be visited when it is a pickup, or its order has been picked up. -/
def RouteState.eligible (leg : α → Leg) (route : RouteState) (stop : α) : Bool :=
  (leg stop).kind = .pickup || route.pickedUpOrders.contains (leg stop).orderId

/-- The route goes on from a stop that has been put in order, where the stop has a place. -/
def RouteState.visit (leg : α → Leg) (route : RouteState) (stop : α) : RouteState where
  pickedUpOrders :=
    if (leg stop).kind = .pickup then (leg stop).orderId :: route.pickedUpOrders
    else route.pickedUpOrders
  cursor := (leg stop).place.or route.cursor

/-- `sequenceStops`. -/
def sequenceStops [DecidableEq α] (cfg : DispatchConfig) (leg : α → Leg) (stops : List α)
    (start : Option Point) : List α :=
  -- Where only drops are left whose pickups are not among the stops, any of them may come next.
  greedy (RouteState.eligible leg) (fun route => nearest cfg leg route.cursor) (RouteState.visit leg)
    stops.length
    { pickedUpOrders := (stops.filter fun stop =>
        (leg stop).kind = .pickup && terminalStopStatuses.contains (leg stop).status).map
          fun stop => (leg stop).orderId
      cursor := start }
    stops

variable {cfg : DispatchConfig} {leg : α → Leg}

/-- The nearest of some stops is one of them. -/
theorem nearest_chooses :
    Chooses fun (route : RouteState) (stops : List α) => nearest cfg leg route.cursor stops where
  among := by
    intro route stops chosen found
    cases stops with
    | nil => cases found
    | cons first rest =>
      -- Whatever has been looked at so far, the best is the first or one of those.
      have best_among : ∀ (others : List α) (best : α), others.foldl (fun best candidate =>
          if closer (metresBetween cfg route.cursor (leg candidate).place)
            (metresBetween cfg route.cursor (leg best).place) then candidate else best) best ∈
          best :: others := by
        intro others
        induction others with
        | nil => exact fun best => List.mem_singleton_self best
        | cons other later ih =>
          intro best
          rw [List.foldl_cons]
          split
          · exact List.mem_cons_of_mem _ (ih other)
          · rcases List.mem_cons.mp (ih best) with same | listed
            · rw [same]
              exact List.mem_cons_self
            · exact List.mem_cons_of_mem _ (List.mem_cons_of_mem _ listed)
      cases found
      exact best_among rest first
  some_ := by
    intro route stops some_
    cases stops with
    | nil => exact absurd rfl some_
    | cons first rest => rfl

variable [DecidableEq α]

/-- Every stop is put in order, once. -/
theorem sequenceStops_perm (cfg : DispatchConfig) (leg : α → Leg) (stops : List α)
    (start : Option Point) : (sequenceStops cfg leg stops start).Perm stops :=
  greedy_perm nearest_chooses (Nat.le_refl _)

/-- A drop comes behind the pickup of its order, where that is still to be made and there is no other. -/
theorem sequenceStops_before {stops : List α} {pickup drop : α} (start : Option Point)
    (listed : pickup ∈ stops) (is_pickup : (leg pickup).kind = .pickup)
    (is_drop : (leg drop).kind = .drop) (same : (leg drop).orderId = (leg pickup).orderId)
    (open_ : terminalStopStatuses.contains (leg pickup).status = false)
    (only : ∀ stop ∈ stops, (leg stop).kind = .pickup →
      (leg stop).orderId = (leg pickup).orderId → stop = pickup) :
    (sequenceStops cfg leg stops start).idxOf pickup <
      (sequenceStops cfg leg stops start).idxOf drop := by
  -- The drop waits as long as its order is not among those picked up.
  refine @greedy_before _ _ _ _ _ _ nearest_chooses _ _ ?_
    (fun route => (leg pickup).orderId ∉ route.pickedUpOrders) ?_ stops ?_ _ _ _
    (List.Subset.refl _) (Nat.le_refl _) ?_ listed
  · exact fun route => by simp [RouteState.eligible, is_pickup]
  · intro route waits
    simp [RouteState.eligible, is_drop, same, waits]
  · intro route other member waits not_it
    unfold RouteState.visit
    split
    · rename_i collects
      rw [List.mem_cons, not_or]
      exact ⟨fun its => not_it (only other member collects its.symm), waits⟩
    · exact waits
  · intro collected
    obtain ⟨stop, member, its⟩ := List.mem_map.mp collected
    obtain ⟨among, closed⟩ := List.mem_filter.mp member
    simp only [Bool.and_eq_true, decide_eq_true_eq] at closed
    rw [only stop among closed.1 its, open_] at closed
    cases closed.2

end Freight.Dispatch
