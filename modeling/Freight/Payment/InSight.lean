import Freight.Payment.FareTurns

/-! A fare that is still owed is on somebody's board: exactly which runs keep it there. -/

namespace Freight.Payment

section
variable {cfg : Config} {id : Nat}

/-- A call that runs alone, at one of its statements. -/
structure Midway (state : Store × PaymentCall) : Prop where
  admitted : Admitted state.1 [state.2]
  upToDate : state.2.UpToDate state.1

/-- What is shown of the order agrees with its requests, and no failure is shown once it is due. -/
structure OnTrack (id : Nat) (state : Store × PaymentCall) : Prop where
  inStep : ∀ status, shown id state.1 state.2 = some status → (status = .pending ↔ Waiting id state.1 state.2)
  sound : Due id state.1 → shown id state.1 state.2 ≠ some .failed

/-- Calls that only ever end prompts. -/
def PaymentCall.settlesFares : PaymentCall → Bool
  | .reconcile _ | .sweep _ => true
  | _ => false

/-- The order's prompt has ended, and the order will not say so, or will say that a fare that is due has failed. -/
structure Lost (id : Nat) (state : Store × PaymentCall) : Prop where
  settles : state.2.settlesFares = true
  ended : ¬ Waiting id state.1 state.2
  shows : shown id state.1 state.2 = some .pending ∨
    (Due id state.1 ∧ shown id state.1 state.2 = some .failed)

/-- A settlement goes on as one, and a sweep as a sweep. -/
theorem PaymentCall.next_settlesFares (store : Store) (answer : Answer) (call : PaymentCall) :
    (call.next cfg store answer).2.settlesFares = call.settlesFares := by
  -- A call stays of its kind.
  cases call <;> rfl

/-- No statement delivers an order, or prices one. -/
theorem due_execute {store : Store} (statement : Statement) :
    Due id (statement.execute store) ↔ Due id store := by
  -- Both the status and the price are columns that no statement writes.
  simp only [Due, order_execute, Option.map_eq_some_iff]
  constructor
  · rintro ⟨_, ⟨order, found, rfl⟩, delivered, priced⟩
    have same := onOrder_same statement store.now order
    exact ⟨order, found, same.2.2.2.2.2.2 ▸ delivered, same.2.2.1 ▸ priced⟩
  · rintro ⟨order, found, delivered, priced⟩
    have same := onOrder_same statement store.now order
    exact ⟨_, ⟨order, found, rfl⟩, same.2.2.2.2.2.2.trans delivered, same.2.2.1.symm ▸ priced⟩

/-- Time alone changes nothing the schema looks at. -/
theorem Admitted.later {store : Store} {calls : List PaymentCall} (admitted : Admitted store calls) (elapsed : Nat) :
    Admitted (store.later elapsed) calls :=
  ⟨⟨admitted.orders, admitted.requests, admitted.references, admitted.drawn, admitted.fresh, admitted.undrawn,
    admitted.backed⟩, admitted.onePending⟩

/-- The next statement of a call finds everything as the one before has left it, only later. -/
theorem Midway.onward {state : Store × PaymentCall} (mid : Midway state) (moment : Moment) :
    Midway (advance cfg state moment) := by
  -- What the call has read is still so a little later, and after its own statement.
  have upToDate : state.2.UpToDate (state.1.later moment.elapsed) := mid.upToDate
  exact ⟨(mid.admitted.later moment.elapsed).next, PaymentCall.next_upToDate upToDate⟩

/-- What one step of a call that runs alone does to what is known of an order's fare. -/
theorem Midway.turn {state : Store × PaymentCall} (mid : Midway state) (moment : Moment) :
    Turn id (state.1.later moment.elapsed) (advance cfg state moment).1 state.2
      (advance cfg state moment).2 := by
  -- What the call has read is still so a little later.
  have upToDate : state.2.UpToDate (state.1.later moment.elapsed) := mid.upToDate
  exact PaymentCall.next_turn rfl (mid.admitted.later moment.elapsed) upToDate

/-- No step of a call delivers an order, or prices one. -/
theorem due_advance (state : Store × PaymentCall) (moment : Moment) :
    Due id (advance cfg state moment).1 ↔ Due id state.1 := due_execute _

/-- A status shown of an order is the one it was stamped with. -/
theorem stamp_of_shown {α β : Type} {found : Option α} {stamp status : β}
    (shows : found.map (fun _ => stamp) = some status) : status = stamp := by
  -- There is an order, and one stamp on it.
  obtain ⟨_, -, same⟩ := Option.map_eq_some_iff.mp shows
  exact same.symm

/-- A step that keeps the fare in sight leaves the order on track. -/
theorem OnTrack.kept {state : Store × PaymentCall} (mid : Midway state) (track : OnTrack id state)
    (sees : Sees id state) (moment : Moment) : OnTrack id (advance cfg state moment) := by
  -- One step neither delivers the order nor takes a delivery back.
  have due := @due_advance cfg id state moment
  -- Each turn that a step can take shows what it does to the order and to its prompt.
  cases @Midway.turn cfg id state mid moment with
  | kept _ status waiting =>
    refine ⟨fun one shows => ?_, fun delivered => ?_⟩
    · rw [status] at shows
      exact (track.inStep one shows).trans waiting.symm
    · rw [status]
      exact track.sound (due.mp delivered)
  | prompted raises status waiting =>
    refine ⟨fun one shows => ?_, fun _ failed => ?_⟩
    · rw [status] at shows
      exact iff_of_true (stamp_of_shown shows) waiting
    · rw [status] at failed
      cases stamp_of_shown failed
  | paid _ _ status waiting =>
    refine ⟨fun one shows => ?_, fun _ failed => ?_⟩
    · rw [status] at shows
      rw [stamp_of_shown shows]
      exact iff_of_false nofun waiting
    · rw [status] at failed
      cases stamp_of_shown failed
  | turnedDown turnsDown _ status waiting =>
    refine ⟨fun one shows => ?_, fun delivered => ?_⟩
    · rw [status] at shows
      rw [stamp_of_shown shows]
      exact iff_of_false nofun waiting
    · -- Nothing is failed once the order is due.
      exact absurd (due.mp delivered) (sees.2 turnsDown)
  | givenUp request listed awaits givesUp => exact absurd givesUp (sees.1 request listed awaits)

/-- A call about to fail a prompt gives none up, and both only happen where prompts are settled. -/
theorem PaymentCall.settlesFares_of_ends {call : PaymentCall} :
    (∀ reference, call.givesUp = some reference → call.settlesFares = true) ∧
    (∀ order, call.turnsDown = some order → call.settlesFares = true ∧ call.givesUp = none) := by
  -- A prompt is given up by a sweep and turned down by a settlement.
  cases call with
  | reconcile call => exact ⟨fun _ _ => rfl, fun _ _ => ⟨rfl, rfl⟩⟩
  | sweep call =>
    cases call with
    | timeOut => exact ⟨fun _ _ => rfl, nofun⟩
    | _ => exact ⟨fun _ _ => rfl, fun _ _ => ⟨rfl, rfl⟩⟩
  | _ => exact ⟨nofun, nofun⟩

/-- Calls that only end prompts place none. -/
theorem PaymentCall.placing_of_settlesFares {call : PaymentCall} (settles : call.settlesFares = true) :
    call.placing = none := by
  -- Only a request places one.
  cases call with
  | reconcile call => rfl
  | sweep call => rfl
  | _ => cases settles

/-- A step that does not keep the fare in sight loses it. -/
theorem OnTrack.lost {state : Store × PaymentCall} (mid : Midway state) (track : OnTrack id state)
    (exists_ : (state.1.order id).isSome = true) (sightless : ¬ Sees id state) (moment : Moment) :
    Lost id (advance cfg state moment) := by
  have due := @due_advance cfg id state moment
  have onward : state.2.settlesFares = true → (advance cfg state moment).2.settlesFares = true :=
    (state.2.next_settlesFares _ _).trans
  have spared : ¬ Spares id (state.1.later moment.elapsed) state.2 := fun spares =>
    sightless ⟨spares.givesUp, fun turns => absurd turns spares.turnsDown⟩
  obtain ⟨order, found⟩ := Option.isSome_iff_exists.mp exists_
  cases @Midway.turn cfg id state mid moment with
  | kept spares => exact absurd spares spared
  | paid spares => exact absurd spares spared
  | prompted raises =>
    obtain ⟨requestId, reference, charge, raises⟩ := raises
    exact absurd (by rw [raises]; exact .of_none rfl rfl) spared
  | turnedDown turnsDown _ status waiting =>
    obtain ⟨settles, keeps⟩ := PaymentCall.settlesFares_of_ends.2 id turnsDown
    refine ⟨onward settles, waiting, .inr ⟨due.mpr ?_, ?_⟩⟩
    · -- The step is only out of order because the fare is due already.
      by_contra early
      exact sightless ⟨fun _ _ _ same => by simp [keeps] at same, fun _ there => early there⟩
    · rw [status, later_order, found]
      rfl
  | givenUp request listed awaits givesUp status waiting =>
    have settles := PaymentCall.settlesFares_of_ends.1 _ givesUp
    refine ⟨onward settles, waiting, .inl ?_⟩
    -- The order still shows the prompt that has been given up.
    rw [status]
    have shows : shown id state.1 state.2 = some ((state.2.stamping id).getD order.paymentStatus) := by
      rw [shown, found]
      rfl
    have out : Waiting id state.1 state.2 := by
      refine ⟨request, listed, awaits, ?_⟩
      rw [PaymentCall.placing_of_settlesFares settles]
      exact nofun
    exact shows.trans (congrArg some ((track.inStep _ shows).mpr out))

/-- What has been lost stays lost to the end of the call. -/
theorem Lost.stays {state : Store × PaymentCall} (mid : Midway state) (lost : Lost id state) (moment : Moment) :
    Lost id (advance cfg state moment) := by
  have due := @due_advance cfg id state moment
  have settles := lost.settles
  have none : ¬ Waiting id (state.1.later moment.elapsed) state.2 := lost.ended
  -- A call that settles fares goes on settling them.
  have onward : (advance cfg state moment).2.settlesFares = true := (state.2.next_settlesFares _ _).trans settles
  cases @Midway.turn cfg id state mid moment with
  | kept _ status waiting =>
    have same : shown id (advance cfg state moment).1 (advance cfg state moment).2 = shown id state.1 state.2 := status
    exact ⟨onward, fun waits => none (waiting.mp waits), by rw [same, due]; exact lost.shows⟩
  | prompted raises =>
    -- Such a call raises no prompt and takes no cash.
    obtain ⟨requestId, reference, charge, raises⟩ := raises
    rw [raises] at settles
    cases settles
  | paid _ out =>
    rcases out with waits | ⟨orderId, collectedBy, takes⟩
    · exact absurd waits none
    · rw [takes] at settles
      cases settles
  | turnedDown _ waits => exact absurd waits none
  | givenUp request listed awaits =>
    refine absurd ⟨request, listed, awaits, ?_⟩ none
    rw [PaymentCall.placing_of_settlesFares settles]
    exact nofun

/-- No step removes an order. -/
theorem order_advance (state : Store × PaymentCall) (moment : Moment) :
    ((advance cfg state moment).1.order id).isSome = (state.1.order id).isSome := by
  -- Statements rewrite orders in place.
  rw [advance, order_execute, Option.isSome_map, later_order]

/-- A fare that is out of sight stays so to the end of the call. -/
theorem Lost.run {moments : List Moment} {state : Store × PaymentCall} (mid : Midway state)
    (lost : Lost id state) : Lost id (Freight.run (advance cfg) state moments) := by
  -- Statement by statement, it stays lost.
  induction moments generalizing state with
  | nil => exact lost
  | cons moment rest ih => exact ih (mid.onward moment) (lost.stays mid moment)

/-- The rows stay what the schema holds them to, from the start of a call to its end. -/
theorem Midway.run {moments : List Moment} {state : Store × PaymentCall} (mid : Midway state) :
    Midway (Freight.run (advance cfg) state moments) ∧
      ((Freight.run (advance cfg) state moments).1.order id).isSome = (state.1.order id).isSome := by
  -- Statement by statement, whatever the answers are.
  induction moments generalizing state with
  | nil => exact ⟨mid, rfl⟩
  | cons moment rest ih =>
    obtain ⟨later, same⟩ := ih (mid.onward moment)
    exact ⟨later, same.trans (order_advance state moment)⟩

/-- A call that starts on track ends there exactly when each of its steps keeps the fare in sight. -/
theorem run_onTrack {moments : List Moment} {state : Store × PaymentCall} (mid : Midway state)
    (track : OnTrack id state) (exists_ : (state.1.order id).isSome = true) :
    (Along (advance cfg) (fun state _ => Sees id state) state moments →
      OnTrack id (run (advance cfg) state moments)) ∧
    (¬ Along (advance cfg) (fun state _ => Sees id state) state moments →
      Lost id (run (advance cfg) state moments)) := by
  -- The induction follows the moments, up to the first step that loses the fare.
  induction moments generalizing state with
  | nil => exact ⟨fun _ => track, fun loses => absurd trivial loses⟩
  | cons moment rest ih =>
    by_cases sees : Sees id state
    · obtain ⟨keeps, loses⟩ := ih (mid.onward moment) (track.kept mid sees moment)
        ((order_advance state moment).trans exists_)
      exact ⟨fun along => keeps along.2, fun not => loses fun along => not ⟨sees, along⟩⟩
    · refine ⟨fun along => absurd along.1 sees, fun _ => ?_⟩
      show Lost id (run (advance cfg) (advance cfg state moment) rest)
      exact (track.lost mid exists_ sees moment).run (mid.onward moment)

/-- A call that has not begun, or has ended, stamps nothing more and places nothing more. -/
theorem idle_start (entry : PaymentEntry) :
    entry.start.stamping id = none ∧ entry.start.placing = none := by
  -- Each service begins by reading.
  cases entry <;> exact ⟨rfl, rfl⟩

/-- Nor does one that has ended. -/
theorem idle_finished {call : PaymentCall} (finished : call.finished = true) :
    call.stamping id = none ∧ call.placing = none := by
  -- Each kind of call in turn: done, it has nothing more to stamp or to place.
  cases call with
  | stopped => exact ⟨rfl, rfl⟩
  | request call => cases call <;> first | exact ⟨rfl, rfl⟩ | cases finished
  | reconcile call => cases call <;> first | exact ⟨rfl, rfl⟩ | cases finished
  | sweep call => cases call <;> first | exact ⟨rfl, rfl⟩ | cases finished
  | cash | dispatch | settlementRequest | settlement => exact ⟨rfl, rfl⟩

/-- With an idle call, what is shown is what the rows say. -/
theorem onTrack_idle {store : Store} {call : PaymentCall}
    (idle : call.stamping id = none ∧ call.placing = none) :
    OnTrack id (store, call) ↔ InStep id store ∧ (Due id store → ¬ Failed id store) := by
  -- The call owes no stamp, so the row is what is shown.
  have shows : shown id store call = (store.order id).map Order.paymentStatus := by
    simp only [shown, idle.1, Option.getD_none]
  have waits : Waiting id store call ↔ ∃ request ∈ store.requests, Awaits id request := by
    simp [Waiting, idle.2]
  constructor
  · rintro ⟨inStep, sound⟩
    refine ⟨fun order found => (inStep _ (by simp [shows, found])).trans waits, ?_⟩
    rintro due ⟨order, found, failed⟩
    exact sound due (by simp [shows, found, failed])
  · rintro ⟨inStep, sound⟩
    refine ⟨fun status there => ?_, fun due failed => ?_⟩
    · rw [shows] at there
      obtain ⟨order, found, rfl⟩ := Option.map_eq_some_iff.mp there
      exact (inStep order found).trans waits.symm
    · rw [shows] at failed
      obtain ⟨order, found, failed⟩ := Option.map_eq_some_iff.mp failed
      exact sound due ⟨order, found, failed⟩

/-- What has been lost when a call ends is out of step, or out of sight. -/
theorem lost_idle {store : Store} {call : PaymentCall}
    (idle : call.stamping id = none ∧ call.placing = none) (lost : Lost id (store, call)) :
    ¬ (InStep id store ∧ (Due id store → ¬ Failed id store)) := by
  -- Still pending, nothing is awaited any more; or it is due and has failed.
  rw [← onTrack_idle idle]
  intro track
  rcases lost.shows with pending | ⟨due, failed⟩
  · exact lost.ended ((track.inStep _ pending).mp rfl)
  · exact track.sound due failed

/-- The order is there, and what is owed on it is in sight. -/
structure InSight (id : Nat) (store : Store) : Prop where
  admitted : Admitted store []
  exists_ : (store.order id).isSome = true
  inStep : InStep id store
  covered : Covered id store

/-- A call begins with nothing read. -/
theorem InSight.midway {store : Store} (inSight : InSight id store) (entry : PaymentEntry) :
    Midway (store, entry.start) := by
  -- What the schema holds the rows to says nothing of a call that has not begun.
  have arrives : Keyed store [entry.start] :=
    @(keyed_keeps .kigali).arrives { shared := store, calls := [] } entry inSight.admitted.toKeyed trivial
  refine ⟨⟨arrives, inSight.admitted.onePending⟩, ?_⟩
  cases entry <;> trivial

/-- What the schema holds the rows to does not depend on the calls in flight. -/
theorem Admitted.alone {store : Store} {calls : List PaymentCall} (admitted : Admitted store calls) :
    Admitted store [] := by
  -- Fewer calls hold fewer references that are not sent yet.
  have fewer : (store.prompts.map Prompt.reference).Sublist
      (unsentReferences calls ++ store.prompts.map Prompt.reference) := List.sublist_append_right _ _
  refine { admitted with fresh := ?_, undrawn := ?_, backed := fun _ listed => by cases listed }
  · exact admitted.fresh.sublist fewer
  · exact fun reference member => admitted.undrawn reference (fewer.subset member)

/-- What happens outside the services leaves an order's id and payment status as they are. -/
theorem order_happen (event : PaymentOutside) (store : Store) (id : Nat) :
    ∃ change : Order → Order, (∀ order, (change order).paymentStatus = order.paymentStatus) ∧
      (event.happen store).order id = (store.order id).map change := by
  -- Both updates leave the id and the payment, whichever order they are of.
  cases event with
  | settle | decline | wait => exact ⟨fun order => order, fun _ => rfl, Option.map_id'.symm⟩
  | updateOrderStatus orderId rateOf status waited =>
    refine ⟨_, fun order => ?_, order_update store id orderId fun order =>
      (statusUpdated_same order rateOf status waited).1⟩
    split
    · exact (statusUpdated_same order rateOf status waited).2
    · rfl
  | confirmDelivery orderId rateOf waited filledBy =>
    refine ⟨_, fun order => ?_, order_update store id orderId fun order =>
      (deliveryConfirmed_same order rateOf waited filledBy).1⟩
    split
    · exact (deliveryConfirmed_same order rateOf waited filledBy).2
    · rfl

/-- Nothing outside the services brings the two records out of step. -/
theorem InStep.happen {store : Store} (inStep : InStep id store) (event : PaymentOutside) :
    InStep id (event.happen store) := by
  -- The order's payment status and the requests are as they were.
  obtain ⟨change, same, found⟩ := order_happen event store id
  intro order there
  rw [found] at there
  obtain ⟨before, was, rfl⟩ := Option.map_eq_some_iff.mp there
  rw [same, (happen_requests event store).1]
  exact inStep before was

/-- Nor does it make a payment fail. -/
theorem failed_happen {store : Store} (event : PaymentOutside) :
    Failed id (event.happen store) ↔ Failed id store := by
  -- The change outside keeps payment statuses.
  obtain ⟨change, same, found⟩ := order_happen event store id
  simp [Failed, found, same]

/-- Nor does it touch what the schema looks at. -/
theorem Admitted.happen {store : Store} (admitted : Admitted store []) (event : PaymentOutside) :
    Admitted (event.happen store) [] := by
  -- Nothing outside writes a request.
  have free : (services .kigali).Free ((services .kigali).outsideNeeds event) ([] : List PaymentCall) :=
    fun _ listed => by cases listed
  have keyed : Keyed (event.happen store) [] :=
    @(keyed_keeps .kigali).happens { shared := store, calls := [] } event admitted.toKeyed trivial free
  refine ⟨keyed, ?_⟩
  rw [(happen_requests event store).1]
  exact admitted.onePending

/-- Whatever happens, the order is still there and its rows are still what the schema holds them to. -/
theorem InSight.serial {store : Store} (inSight : InSight id store) (event : SerialEvent) :
    Admitted (serial cfg store event) [] ∧ ((Payment.serial cfg store event).order id).isSome = true := by
  -- An operation runs to some moment of it and its call is forgotten.
  cases event with
  | outside event =>
    obtain ⟨change, -, found⟩ := order_happen event store id
    exact ⟨inSight.admitted.happen event, by
      rw [Payment.serial, found, Option.isSome_map]
      exact inSight.exists_⟩
  | operation entry moments =>
    obtain ⟨mid, same⟩ := @Midway.run cfg id moments _ (inSight.midway entry)
    exact ⟨mid.admitted.alone, same.trans inSight.exists_⟩

/-- A fare in sight stays so exactly when what happens keeps it there. -/
theorem InSight.serial_iff {store : Store} (inSight : InSight id store) {event : SerialEvent}
    (ends : completed cfg store event = true) :
    (InStep id (Payment.serial cfg store event) ∧ Covered id (Payment.serial cfg store event)) ↔
      KeepsInSight cfg id store event := by
  obtain ⟨admitted, -⟩ := @InSight.serial cfg id store inSight event
  have sound := (covered_iff inSight.admitted inSight.inStep).mp inSight.covered
  -- The board's own blind spots come off first: what remains is about the records alone.
  have split : (InStep id (Payment.serial cfg store event) ∧ Covered id (Payment.serial cfg store event)) ↔
      (InStep id (Payment.serial cfg store event) ∧
        (Due id (Payment.serial cfg store event) → ¬ Failed id (Payment.serial cfg store event))) ∧
      (Due id (Payment.serial cfg store event) → ¬ HalfAnHour id (Payment.serial cfg store event)) := by
    rw [and_assoc]
    refine and_congr_right fun inStep => (covered_iff admitted inStep).trans ?_
    exact ⟨fun both => ⟨fun due => (both due).1, fun due => (both due).2⟩,
      fun both due => ⟨both.1 due, both.2 due⟩⟩
  rw [split]
  refine and_congr_left fun _ => ?_
  cases event with
  | outside event =>
    simp only [Payment.serial, failed_happen]
    exact and_iff_right (inSight.inStep.happen event)
  | operation entry moments =>
    have track : OnTrack id (store, entry.start) :=
      (onTrack_idle (idle_start entry)).mpr ⟨inSight.inStep, fun due => (sound due).1⟩
    obtain ⟨keeps, loses⟩ := @run_onTrack cfg id moments _ (inSight.midway entry) track inSight.exists_
    have idle := @idle_finished id _ ends
    constructor
    · intro good
      by_contra sightless
      exact lost_idle idle (loses sightless) good
    · intro along
      exact (onTrack_idle idle).mp (keeps along)

end

/--
A fare that is owed stays in sight exactly when no sweep gives up on its prompt, none fails once the order is due,
no order whose payment has failed is delivered, and nobody looks half an hour to the moment after a prompt.
-/
theorem fares_in_sight_iff (cfg : Config) {id : Nat} {store : Store} {events : List SerialEvent}
    (initial : InSight id store)
    (alone : Along (serial cfg) (fun store event => completed cfg store event = true) store events) :
    Throughout (serial cfg) (fun store => InStep id store ∧ Covered id store) store events ↔
      Along (serial cfg) (KeepsInSight cfg id) store events := by
  -- One step decides for one step, in a state that is in sight.
  refine throughout_iff_along (fun store inSight => ⟨inSight.inStep, inSight.covered⟩)
    (fun store event inSight ends weak => (inSight.serial_iff ends).mp weak)
    (fun store event inSight ends condition => ?_) initial alone
  obtain ⟨admitted, exists_⟩ := @InSight.serial cfg id store inSight event
  obtain ⟨inStep, covered⟩ := (inSight.serial_iff ends).mpr condition
  exact ⟨admitted, exists_, inStep, covered⟩

/-- The order was handed over before anybody had paid for it. -/
def handedOver : Store where
  orders := [{ atTheDoor with status := .delivered }]
  nextId := 1

/-- A delivery nobody has been asked to pay for is on the board. -/
theorem handedOver_inSight : InSight 1 handedOver where
  -- There is no request, no prompt and no payout yet.
  admitted := by
    refine ⟨⟨?_, ?_, ?_, ?_, ?_, ?_, ?_⟩, ?_⟩ <;> simp [handedOver, unsentReferences, atTheDoor]
  exists_ := rfl
  inStep := by
    rintro order ⟨⟩
    exact iff_of_false (by decide) (by rintro ⟨request, ⟨⟩, -⟩)
  covered := fun _ _ _ _ _ => .inl (by decide)

/-- A prompt goes out, the customer answers it, and the webhook's call settles it. -/
def askedAndPaid : List SerialEvent :=
  [.operation (.requestPaymentForOrder 1 none none) (List.replicate 5 {}),
    .outside (.wait (2 * minute)),
    .operation (.reconcilePaymentRequest 1) (List.replicate 13 { verdict := some collected })]

/-- The fare of a prompt that is answered stays in sight. -/
theorem askedAndPaid_inSight :
    Throughout (serial .kigali) (fun store => InStep 1 store ∧ Covered 1 store) handedOver askedAndPaid :=
  (fares_in_sight_iff .kigali handedOver_inSight (by decide +kernel)).mpr (by decide +kernel)

/-- A prompt goes out, nobody answers it, and a sweep gives up on it. -/
def promptGivenUp : List SerialEvent :=
  [.operation (.requestPaymentForOrder 1 none none) (List.replicate 5 {}),
    .outside (.wait (11 * minute)),
    .operation .sweepPendingPayments (List.replicate 6 { verdict := some { status := .pending } })]

/-- After the sweep the order waits for a prompt that is over, and is in neither group. -/
theorem promptGivenUp_out_of_sight :
    ¬ ∀ (cfg : Config) (id : Nat) (store : Store) (events : List SerialEvent), InSight id store →
      Along (serial cfg) (fun store event => completed cfg store event = true) store events →
      Throughout (serial cfg) (fun store => InStep id store ∧ Covered id store) store events := by
  intro always
  have last := (always .kigali 1 handedOver promptGivenUp handedOver_inSight (by decide +kernel)).last
  have waits : ((run (serial .kigali) handedOver promptGivenUp).order 1).map Order.paymentStatus = some .pending := by
    decide +kernel
  -- The order still shows as pending, and the sweep has timed out what it waits for.
  have over_ : ∀ request ∈ (run (serial .kigali) handedOver promptGivenUp).requests, ¬ Awaits 1 request := by
    decide +kernel
  obtain ⟨order, found, pending⟩ := Option.map_eq_some_iff.mp waits
  obtain ⟨request, listed, awaits⟩ := (last.1 order found).mp pending
  exact over_ request listed awaits

end Freight.Payment
