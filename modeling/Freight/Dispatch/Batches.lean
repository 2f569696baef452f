import Freight.Dispatch.Board
import Freight.Library.Run
import Freight.Library.Table
import Freight.Pricing.Breakdown

/-! Suggesting batches: pending orders that are close at both ends, grouped around one of them. -/

namespace Freight.Dispatch

/-- A pending order, as it is read to be batched. -/
structure PendingOrder where
  id : Nat
  cargoDescription : String
  weightKg : ℚ
  originHubName : Option String
  pickup : Option Point
  delivery : Option Point
  /-- `NUMERIC(10, 2)`. -/
  hundredths : ∃ count : ℤ, weightKg = count / 100

/-- The rows of the first query: pending orders in whatever order they come, each once. -/
abbrev PendingTable := Table PendingOrder fun order => order.id

/-- The rows of the second query: pairs of orders that are close, the smaller id first, each pair once. -/
structure SpatialPairs where
  rows : List (Nat × Nat)
  oriented : ∀ pair ∈ rows, pair.1 < pair.2
  once : rows.Nodup

/-- Two orders are close. -/
def SpatialPairs.Close (pairs : SpatialPairs) (one other : Nat) : Prop :=
  (one, other) ∈ pairs.rows ∨ (other, one) ∈ pairs.rows

instance (pairs : SpatialPairs) (one other : Nat) : Decidable (pairs.Close one other) :=
  inferInstanceAs (Decidable (_ ∨ _))

/-- A batch that is suggested. -/
structure Batch where
  batchId : String
  originCluster : Option String
  totalWeightKg : ℚ
  shipments : List PendingOrder

/-- `toFixed(2)`, read as a number. -/
def toFixed2 (value : ℚ) : ℚ := mathRound (value * 100) / 100

/-- The batches so far, and the orders that are in one. -/
structure Batching where
  visited : List Nat
  batches : List Batch

/-- `spatialPairs.forEach`: the orders close to the current one that are in no batch yet join it. -/
def gather (pending : PendingTable) (current : PendingOrder) :
    List (Nat × Nat) → List Nat → List PendingOrder → List Nat × List PendingOrder
  | [], visited, currentBatch => (visited, currentBatch)
  | pair :: rest, visited, currentBatch =>
    -- The pairs come in the order the database gives them.
    if pair.1 = current.id ∧ pair.2 ∉ visited then
      match pending.find? pair.2 with
      | some companion => gather pending current rest (pair.2 :: visited) (currentBatch ++ [companion])
      | none => gather pending current rest visited currentBatch
    else gather pending current rest visited currentBatch

/-- One turn of the loop over the pending orders. -/
def batchStep (pending : PendingTable) (pairs : SpatialPairs) (draw : Nat → Nat) (state : Batching)
    (current : PendingOrder) : Batching :=
  -- Whoever has joined a batch opens none.
  if current.id ∈ state.visited then state
  else
    let (visited, currentBatch) := gather pending current pairs.rows (current.id :: state.visited) [current]
    { visited := visited
      batches := state.batches ++ [{
        batchId := "BATCH-" ++ toString (draw state.batches.length)
        originCluster := current.originHubName
        totalWeightKg := toFixed2 (currentBatch.map PendingOrder.weightKg).sum
        shipments := currentBatch }] }

/-- `getBatchedOrders`, with the numbers it draws for its batches. -/
def getBatchedOrders (pending : PendingTable) (pairs : SpatialPairs) (draw : Nat → Nat) : List Batch :=
  (run (batchStep pending pairs draw) { visited := [], batches := [] } pending.rows).batches

/-- What a batch may be: one order and others close to it, its cluster and weight read off them. -/
structure Batch.Sound (pairs : SpatialPairs) (batch : Batch) : Prop where
  around : ∃ first others, batch.shipments = first :: others ∧
    batch.originCluster = first.originHubName ∧ ∀ other ∈ others, pairs.Close first.id other.id
  weight : batch.totalWeightKg = (batch.shipments.map PendingOrder.weightKg).sum

/-- No batch is started by an order close to the one that started an earlier batch. -/
def Maximal (pairs : SpatialPairs) (batches : List Batch) : Prop :=
  batches.Pairwise fun earlier later => ∀ first ∈ earlier.shipments.head?,
    ∀ second ∈ later.shipments.head?, ¬ pairs.Close first.id second.id

instance (pairs : SpatialPairs) (batches : List Batch) : Decidable (Maximal pairs batches) :=
  inferInstanceAs (Decidable (List.Pairwise _ _))

/--
The condition on a turn: an order that is in no batch yet is not listed behind one that has started a batch,
is close to it, and has the larger id.
-/
def NotLate (pairs : SpatialPairs) (state : Batching) (current : PendingOrder) : Prop :=
  current.id ∈ state.visited ∨ ∀ batch ∈ state.batches, ∀ first ∈ batch.shipments.head?,
    (current.id, first.id) ∉ pairs.rows

section Gather

variable {pending : PendingTable} {current : PendingOrder}

/-- What has been gathered for a batch: its orders, and what has been visited with them. -/
structure Gathered (pending : PendingTable) (current : PendingOrder) (pairs : List (Nat × Nat))
    (before : List Nat) (result : List Nat × List PendingOrder) (batch : List PendingOrder) : Prop where
  grows : ∃ others, result.2 = batch ++ others ∧
    (∀ other ∈ others, other ∈ pending.rows ∧ (current.id, other.id) ∈ pairs ∧ other.id ∉ before) ∧
    (others.map fun other => other.id).Nodup ∧
    ∀ id, id ∈ result.1 ↔ id ∈ before ∨ ∃ other ∈ others, other.id = id
  all : ∀ order ∈ pending.rows, (current.id, order.id) ∈ pairs → order.id ∈ result.1

/-- Gathering takes whatever is paired with the current order and in no batch yet. -/
theorem gather_spec (pairs : List (Nat × Nat)) (before : List Nat) (batch : List PendingOrder) :
    Gathered pending current pairs before (gather pending current pairs before batch) batch := by
  -- Pair by pair: one that adds an order adds it to both lists.
  induction pairs generalizing before batch with
  | nil =>
    refine ⟨⟨[], by simp [gather], by simp, by simp, by simp [gather]⟩, ?_⟩
    exact fun order _ listed => absurd listed List.not_mem_nil
  | cons pair rest ih =>
    have keeps : ∀ {result}, Gathered pending current rest before result batch →
        (∀ order ∈ pending.rows, (current.id, order.id) = pair → order.id ∈ result.1) →
        Gathered pending current (pair :: rest) before result batch := by
      rintro result ⟨⟨others, is_it, among, distinct, visited⟩, all⟩ first
      refine ⟨⟨others, is_it, fun other member => ?_, distinct, visited⟩, fun order member listed => ?_⟩
      · obtain ⟨there, paired, fresh⟩ := among other member
        exact ⟨there, List.mem_cons_of_mem _ paired, fresh⟩
      · rcases List.mem_cons.mp listed with is_first | later
        · exact first order member is_first
        · exact all order member later
    simp only [gather]
    split
    · rename_i joins
      obtain ⟨own, fresh⟩ := joins
      cases found : pending.find? pair.2 with
      | none =>
        refine keeps (ih before batch) fun order member is_pair => ?_
        -- The second order of the pair is not pending.
        have there := Table.find?_eq_some.mpr ⟨member, congrArg Prod.snd is_pair⟩
        rw [found] at there
        cases there
      | some companion =>
        obtain ⟨there, named⟩ := Table.find?_eq_some.mp found
        obtain ⟨⟨others, is_it, among, distinct, visited⟩, all⟩ := ih (pair.2 :: before) (batch ++ [companion])
        have paired : (current.id, companion.id) ∈ pair :: rest := by
          rw [named, ← own]
          exact List.mem_cons_self
        refine ⟨⟨companion :: others, by rw [is_it, List.append_assoc]; rfl, ?_, ?_, ?_⟩, ?_⟩
        · intro other member
          rcases List.mem_cons.mp member with rfl | later
          · exact ⟨there, paired, named ▸ fresh⟩
          · obtain ⟨listed, also, unseen⟩ := among other later
            exact ⟨listed, List.mem_cons_of_mem _ also, fun seen => unseen (List.mem_cons_of_mem _ seen)⟩
        · rw [List.map_cons, List.nodup_cons]
          refine ⟨fun again => ?_, distinct⟩
          obtain ⟨other, later, same⟩ := List.mem_map.mp again
          exact (among other later).2.2 (by rw [same, named]; exact List.mem_cons_self)
        · intro id
          rw [visited id]
          simp only [List.mem_cons, exists_eq_or_imp, named]
          constructor
          · rintro ((rfl | seen) | added)
            · exact .inr (.inl rfl)
            · exact .inl seen
            · exact .inr (.inr added)
          · rintro (seen | rfl | added)
            · exact .inl (.inr seen)
            · exact .inl (.inl rfl)
            · exact .inr added
        · intro order member listed
          rcases List.mem_cons.mp listed with is_pair | later
          · refine (visited order.id).mpr (.inl ?_)
            rw [← is_pair]
            exact List.mem_cons_self
          · exact all order member later
    · rename_i passed
      refine keeps (ih before batch) fun order member is_pair => ?_
      -- The pair is passed by although it is the current order's, so its other order has been visited.
      have seen : order.id ∈ before := by
        by_contra fresh
        exact passed ⟨by rw [← is_pair], by rw [← is_pair]; exact fresh⟩
      obtain ⟨_, -, -, -, visited⟩ := (@ih before batch).grows
      exact (visited order.id).mpr (.inl seen)

end Gather

section Loop

variable {pending : PendingTable} {pairs : SpatialPairs} {draw : Nat → Nat}

/-- The weights of pending orders add up to hundredths, which `toFixed(2)` keeps. -/
theorem toFixed2_sum (orders : List PendingOrder) :
    toFixed2 (orders.map PendingOrder.weightKg).sum = (orders.map PendingOrder.weightKg).sum := by
  -- A sum of hundredths is a number of hundredths, by induction on the orders.
  have whole : ∃ count : ℤ, (orders.map PendingOrder.weightKg).sum = count / 100 := by
    induction orders with
    | nil => exact ⟨0, by simp⟩
    | cons order rest ih =>
      obtain ⟨others, sum⟩ := ih
      obtain ⟨own, weight⟩ := order.hundredths
      refine ⟨own + others, ?_⟩
      rw [List.map_cons, List.sum_cons, sum, weight, Int.cast_add, add_div]
  obtain ⟨count, sum⟩ := whole
  unfold toFixed2
  rw [sum, div_mul_cancel₀ _ (by norm_num : (100 : ℚ) ≠ 0), mathRound_intCast]

/-- Where the loop stands: what is in a batch is pending, is in no other, and is what has been visited. -/
structure Grouped (pending : PendingTable) (pairs : SpatialPairs) (state : Batching) : Prop where
  listed : ∀ order ∈ state.batches.flatMap Batch.shipments, order ∈ pending.rows
  once : ((state.batches.flatMap Batch.shipments).map fun order => order.id).Nodup
  seen : ∀ id, id ∈ state.visited ↔ ∃ order ∈ state.batches.flatMap Batch.shipments, order.id = id
  sound : ∀ batch ∈ state.batches, batch.Sound pairs
  /-- What is paired with the first order of a batch, and pending, is in that batch or an earlier one. -/
  behind : ∀ batch ∈ state.batches, ∀ first ∈ batch.shipments.head?, ∀ order ∈ pending.rows,
    (first.id, order.id) ∈ pairs.rows → order.id ∈ state.visited

/-- What a turn makes of an order that is in no batch: one more batch, around it. -/
theorem batchStep_starts {state : Batching} {current : PendingOrder} (fresh : current.id ∉ state.visited) :
    ∃ batch others, (batchStep pending pairs draw state current).batches = state.batches ++ [batch] ∧
      batch.shipments = current :: others ∧ batch.originCluster = current.originHubName ∧
      batch.totalWeightKg = toFixed2 ((current :: others).map PendingOrder.weightKg).sum ∧
      Gathered pending current pairs.rows (current.id :: state.visited)
        ((batchStep pending pairs draw state current).visited, current :: others) [current] := by
  have gathered := @gather_spec pending current pairs.rows (current.id :: state.visited) [current]
  obtain ⟨others, is_it, -, -, -⟩ := gathered.grows
  unfold batchStep
  rw [if_neg fresh]
  refine ⟨_, others, rfl, is_it, rfl, ?_, ?_⟩
  · rw [is_it]
    rfl
  · -- The batch is the order itself and what was gathered around it.
    have both : current :: others = (gather pending current pairs.rows (current.id :: state.visited) [current]).2 :=
      is_it.symm
    rw [both]
    exact gathered

/-- A turn keeps what holds where the loop stands, and visits its order. -/
theorem batchStep_grouped {state : Batching} {current : PendingOrder} (grouped : Grouped pending pairs state)
    (there : current ∈ pending.rows) :
    Grouped pending pairs (batchStep pending pairs draw state current) ∧
      (∀ id ∈ state.visited, id ∈ (batchStep pending pairs draw state current).visited) ∧
      current.id ∈ (batchStep pending pairs draw state current).visited := by
  by_cases fresh : current.id ∈ state.visited
  · -- An order that is in a batch already is passed over.
    have same : batchStep pending pairs draw state current = state := if_pos fresh
    rw [same]
    exact ⟨grouped, fun _ seen => seen, fresh⟩
  · obtain ⟨batch, others, batches, shipments, cluster, weight, gathered⟩ :=
      @batchStep_starts pending pairs draw state current fresh
    obtain ⟨also, is_it, among, distinct, visited⟩ := gathered.grows
    obtain rfl : others = also := List.cons_injective is_it
    generalize batchStep pending pairs draw state current = next at *
    -- What is shipped grows by the new batch.
    have shipped : next.batches.flatMap Batch.shipments =
        state.batches.flatMap Batch.shipments ++ current :: others := by
      rw [batches, List.flatMap_append, List.flatMap_singleton, shipments]
    have stays : ∀ id ∈ state.visited, id ∈ next.visited := fun id seen =>
      (visited id).mpr (.inl (List.mem_cons_of_mem _ seen))
    refine ⟨⟨?_, ?_, ?_, ?_, ?_⟩, stays, (visited current.id).mpr (.inl List.mem_cons_self)⟩
    · intro order member
      rw [shipped, List.mem_append, List.mem_cons] at member
      rcases member with earlier | rfl | added
      · exact grouped.listed order earlier
      · exact there
      · exact (among order added).1
    · rw [shipped, List.map_append, List.nodup_append]
      refine ⟨grouped.once, ?_, ?_⟩
      · rw [List.map_cons, List.nodup_cons]
        refine ⟨fun again => ?_, distinct⟩
        obtain ⟨other, added, same⟩ := List.mem_map.mp again
        exact (among other added).2.2 (same ▸ List.mem_cons_self)
      · -- What is in an earlier batch has been visited, and what joins this one had not been.
        intro id earlier other here same
        obtain ⟨order, member, rfl⟩ := List.mem_map.mp earlier
        obtain ⟨joined, added, rfl⟩ := List.mem_map.mp here
        have seen := (grouped.seen order.id).mpr ⟨order, member, rfl⟩
        rcases List.mem_cons.mp added with rfl | added
        · exact fresh (same ▸ seen)
        · exact (among joined added).2.2 (List.mem_cons_of_mem _ (same ▸ seen))
    · intro id
      rw [visited id, shipped]
      simp only [List.mem_cons, grouped.seen, List.mem_append, or_and_right, exists_or,
        exists_eq_left, or_assoc]
      rw [or_left_comm, eq_comm]
    · intro one member
      rw [batches] at member
      rcases List.mem_append.mp member with earlier | last
      · exact grouped.sound one earlier
      · obtain rfl := List.mem_singleton.mp last
        refine ⟨⟨current, others, shipments, cluster, fun other added => ?_⟩, ?_⟩
        · exact .inl (among other added).2.1
        · rw [weight, toFixed2_sum, shipments]
    · intro one member first is_first order listed paired
      rw [batches] at member
      rcases List.mem_append.mp member with earlier | last
      · exact stays _ (grouped.behind one earlier first is_first order listed paired)
      · obtain rfl := List.mem_singleton.mp last
        rw [shipments] at is_first
        cases is_first
        exact gathered.all order listed paired

/-- Before the first turn nothing is grouped. -/
theorem grouped_nil : Grouped pending pairs { visited := [], batches := [] } :=
  ⟨by simp, by simp, by simp, by simp, by simp⟩

/-- A turn keeps the grouping maximal exactly when its order does not come late. -/
theorem batchStep_maximal {state : Batching} {current : PendingOrder} (grouped : Grouped pending pairs state)
    (there : current ∈ pending.rows) :
    Maximal pairs (batchStep pending pairs draw state current).batches ↔
      Maximal pairs state.batches ∧ NotLate pairs state current := by
  by_cases fresh : current.id ∈ state.visited
  · have same : batchStep pending pairs draw state current = state := if_pos fresh
    rw [same]
    exact ⟨fun maximal => ⟨maximal, .inl fresh⟩, And.left⟩
  · obtain ⟨batch, others, batches, shipments, -⟩ :=
      @batchStep_starts pending pairs draw state current fresh
    unfold Maximal NotLate
    rw [batches, List.pairwise_append]
    simp only [List.pairwise_singleton, true_and, List.mem_singleton, forall_eq, shipments, List.head?_cons,
      Option.mem_some_iff, forall_eq', fresh, false_or]
    refine and_congr_right fun _ => forall₄_congr fun earlier member first is_first => ?_
    -- Of the two ways a pair can be listed, one is what gathering looks for.
    have taken : (first.id, current.id) ∉ pairs.rows := fun paired =>
      fresh (grouped.behind earlier member first is_first current there paired)
    simp [SpatialPairs.Close, taken]

/-- What some turns make of a grouping: it holds its orders, and is maximal when none of them came late. -/
theorem run_grouped {state : Batching} (grouped : Grouped pending pairs state) {orders : List PendingOrder}
    (there : ∀ order ∈ orders, order ∈ pending.rows) :
    Grouped pending pairs (run (batchStep pending pairs draw) state orders) ∧
      (∀ id ∈ state.visited, id ∈ (run (batchStep pending pairs draw) state orders).visited) ∧
      (∀ order ∈ orders, order.id ∈ (run (batchStep pending pairs draw) state orders).visited) ∧
      (Maximal pairs (run (batchStep pending pairs draw) state orders).batches ↔
        Maximal pairs state.batches ∧ Along (batchStep pending pairs draw) (NotLate pairs) state orders) := by
  -- The induction follows the turns, from whatever the earlier ones have grouped.
  induction orders generalizing state with
  | nil => exact ⟨grouped, fun _ seen => seen, by simp, by simp [Along]⟩
  | cons current rest ih =>
    have listed := there current List.mem_cons_self
    obtain ⟨next, stays, visits⟩ := @batchStep_grouped pending pairs draw state current grouped listed
    obtain ⟨last, later, all, maximal⟩ := ih next fun order member => there order (List.mem_cons_of_mem _ member)
    refine ⟨last, fun id seen => later id (stays id seen), ?_, ?_⟩
    · intro order member
      rcases List.mem_cons.mp member with rfl | member
      · exact later _ visits
      · exact all order member
    · rw [run_cons, maximal, batchStep_maximal grouped listed, and_assoc]
      rfl

end Loop

/--
Whatever order the pending orders come in and whichever of them are close, each is in exactly one batch,
batches gather orders close to their first, and weigh what these weigh; no order starts a batch although an
earlier batch is around one close to it exactly when no turn comes late.
-/
theorem batched_once_around_first (pending : PendingTable) (pairs : SpatialPairs) (draw : Nat → Nat) :
    ((getBatchedOrders pending pairs draw).flatMap Batch.shipments).Perm pending.rows ∧
      (∀ batch ∈ getBatchedOrders pending pairs draw, batch.Sound pairs) ∧
      (Maximal pairs (getBatchedOrders pending pairs draw) ↔
        Along (batchStep pending pairs draw) (NotLate pairs) { visited := [], batches := [] } pending.rows) := by
  obtain ⟨grouped, -, all, maximal⟩ :=
    @run_grouped pending pairs draw _ grouped_nil _ fun _ listed => listed
  refine ⟨?_, grouped.sound, ?_⟩
  · refine (List.perm_ext_iff_of_nodup grouped.once.of_map pending.unique.of_map).mpr fun order => ?_
    refine ⟨grouped.listed order, fun listed => ?_⟩
    -- It has been visited, so a pending order with its id is in a batch; there is one such order.
    obtain ⟨same, member, named⟩ := (grouped.seen order.id).mp (all order listed)
    rwa [pending.same_row listed (grouped.listed same member) named.symm]
  · refine maximal.trans (and_iff_right ?_)
    exact List.Pairwise.nil

/-- Two pending orders that are close, the later one listed first. -/
def latestFirst : PendingTable where
  rows := [5, 3].map fun id =>
    { id := id, cargoDescription := "maize", weightKg := 100, originHubName := some "Kigali",
      pickup := none, delivery := none, hundredths := ⟨10000, by norm_num⟩ }
  unique := by decide

/-- They are close. -/
def bothClose : SpatialPairs where
  rows := [(3, 5)]
  oriented := by decide
  once := by decide

/-- Order 5 starts a batch, and order 3 starts another one although the two are close. -/
theorem close_orders_apart : ¬ ∀ (pending : PendingTable) (pairs : SpatialPairs) (draw : Nat → Nat),
    ((getBatchedOrders pending pairs draw).flatMap Batch.shipments).Perm pending.rows ∧
      (∀ batch ∈ getBatchedOrders pending pairs draw, batch.Sound pairs) ∧
      Maximal pairs (getBatchedOrders pending pairs draw) := fun all =>
  absurd (all latestFirst bothClose fun _ => 1000).2.2 (by decide +kernel)

end Freight.Dispatch
