import Freight.Payment.Journey
import Freight.Payment.Serial

/-! The two groups of the exceptions board that look for fares, and what has to be true for them to see all of them. -/

namespace Freight.Payment

/-- Minutes after which the board takes an unanswered prompt for stuck. -/
def stuckMinutes : Nat := 30

/-- A prompt for the order, and nobody has answered it yet. -/
def Awaits (id : Nat) (request : PaymentRequest) : Prop := request.orderId = id ∧ request.status = .pending

instance (id : Nat) (request : PaymentRequest) : Decidable (Awaits id request) :=
  inferInstanceAs (Decidable (_ ∧ _))

/-- `payment_outstanding`: the orders that were delivered at a price and that nobody has paid. -/
def paymentOutstanding (store : Store) : List Nat :=
  (store.orders.filter fun order => order.status = .delivered ∧ order.paymentStatus = .unpaid ∧
    order.priceTotal.isSome).map Order.id

/-- `payment_stuck`: the orders of the prompts that have gone unanswered for more than half an hour. -/
def paymentStuck (store : Store) : List Nat :=
  (store.requests.filter fun request => request.status = .pending ∧
    request.createdAt + stuckMinutes * minute < store.now).filterMap fun request =>
      (store.order request.orderId).map Order.id

/-- `payment_status` and the request rows tell the same of an order. -/
def InStep (id : Nat) (store : Store) : Prop :=
  ∀ order, store.order id = some order →
    (order.paymentStatus = .pending ↔ ∃ request ∈ store.requests, Awaits id request)

/-- A fare that is still owed is on the board, unless a prompt for it has only just gone out. -/
def Covered (id : Nat) (store : Store) : Prop :=
  ∀ order, store.order id = some order →
    order.status = .delivered → order.priceTotal.isSome = true → order.paymentStatus ≠ .paid →
    id ∈ paymentOutstanding store ∨ id ∈ paymentStuck store ∨
      ∃ request ∈ store.requests, Awaits id request ∧ store.now < request.createdAt + stuckMinutes * minute

/-- The order is delivered, at a price. -/
def Due (id : Nat) (store : Store) : Prop :=
  ∃ order, store.order id = some order ∧ order.status = .delivered ∧ order.priceTotal.isSome = true

instance (id : Nat) (store : Store) : Decidable (Due id store) :=
  decidable_of_iff ((store.order id).any fun order => order.status = .delivered ∧ order.priceTotal.isSome = true)
    (by simp [Due, Option.any_eq_true])

/-- The order says that its payment has failed. -/
def Failed (id : Nat) (store : Store) : Prop :=
  ∃ order, store.order id = some order ∧ order.paymentStatus = .failed

instance (id : Nat) (store : Store) : Decidable (Failed id store) :=
  decidable_of_iff ((store.order id).any fun order => order.paymentStatus = .failed)
    (by simp [Failed, Option.any_eq_true])

/-- It is half an hour, to the moment, since a prompt for the order went out. -/
def HalfAnHour (id : Nat) (store : Store) : Prop :=
  ∃ request ∈ store.requests, Awaits id request ∧ store.now = request.createdAt + stuckMinutes * minute

instance (id : Nat) (store : Store) : Decidable (HalfAnHour id store) :=
  inferInstanceAs (Decidable (∃ request ∈ store.requests, _ ∧ _))

/-- What the schema holds the rows to. -/
structure Admitted (store : Store) (calls : List PaymentCall) : Prop extends Keyed store calls where
  /-- An order has one pending request at most. -/
  onePending : ∀ row ∈ store.requests, ∀ other ∈ store.requests, row.status = .pending →
    other.status = .pending → row.orderId = other.orderId → row = other

/-- The reference of the prompt a sweep is about to give up on. -/
def PaymentCall.givesUp : PaymentCall → Option Nat
  | .sweep (.timeOut row _ _) => some row.reference
  | _ => none

/-- The order whose prompt a settlement is about to mark as failed. -/
def ReconcileCall.turnsDown : ReconcileCall → Option Nat
  | .mismatchRequest found _ => some found.request.orderId
  | .settle found verdict => if verdict.status = .successful then none else some found.request.orderId
  | _ => none

/-- The order whose prompt a call is about to mark as failed. -/
def PaymentCall.turnsDown (call : PaymentCall) : Option Nat := call.reconciling.bind ReconcileCall.turnsDown

/-- The step neither gives up on a prompt for the order, nor fails one once the order is due. -/
def Sees (id : Nat) (state : Store × PaymentCall) : Prop :=
  (∀ request ∈ state.1.requests, Awaits id request → state.2.givesUp ≠ some request.reference) ∧
    (state.2.turnsDown = some id → ¬ Due id state.1)

instance (id : Nat) (state : Store × PaymentCall) : Decidable (Sees id state) :=
  inferInstanceAs (Decidable (_ ∧ _))

/-- Nothing happens that loses sight of the order's fare. -/
def KeepsInSight (cfg : Config) (id : Nat) (store : Store) (event : SerialEvent) : Prop :=
  (match event with
    | .operation entry moments =>
      Along (advance cfg) (fun state _ => Sees id state) (store, entry.start) moments
    | .outside event => Due id (event.happen store) → ¬ Failed id store) ∧
  (Due id (serial cfg store event) → ¬ HalfAnHour id (serial cfg store event))

instance (cfg : Config) (id : Nat) (store : Store) : DecidablePred (KeepsInSight cfg id store)
  | .operation entry moments => inferInstanceAs (Decidable (Along _ _ (store, entry.start) moments ∧ _))
  | .outside event => inferInstanceAs (Decidable ((Due id (event.happen store) → ¬ Failed id store) ∧ _))

/-- Where the two records agree, the board sees a fare unless its payment has failed. -/
theorem covered_iff {id : Nat} {store : Store} {calls : List PaymentCall} (admitted : Admitted store calls)
    (inStep : InStep id store) :
    Covered id store ↔ Due id store → ¬ Failed id store ∧ ¬ HalfAnHour id store := by
  constructor
  · rintro covered ⟨order, found, delivered, priced⟩
    -- Neither group has room for an order that has failed, nor for a prompt of exactly the age between them.
    have own : ∀ other, other ∈ store.orders → other.id = id → other = order := by
      intro other listed same
      have named := admitted.order_of_mem listed
      rw [same, found] at named
      exact (Option.some.inj named).symm
    have outstanding : id ∈ paymentOutstanding store → order.paymentStatus = .unpaid := by
      intro member
      obtain ⟨other, kept, same⟩ := List.mem_map.mp member
      obtain ⟨listed, holds⟩ := List.mem_filter.mp kept
      rw [← own other listed same]
      exact (of_decide_eq_true holds).2.1
    have stuck : id ∈ paymentStuck store →
        ∃ request ∈ store.requests, Awaits id request ∧ request.createdAt + stuckMinutes * minute < store.now := by
      intro member
      obtain ⟨request, kept, joined⟩ := List.mem_filterMap.mp member
      obtain ⟨listed, holds⟩ := List.mem_filter.mp kept
      obtain ⟨other, named, same⟩ := Option.map_eq_some_iff.mp joined
      have target : other.id = request.orderId := by simpa using List.find?_some named
      exact ⟨request, listed, ⟨target.symm.trans same, (of_decide_eq_true holds).1⟩, (of_decide_eq_true holds).2⟩
    constructor
    · rintro ⟨other, named, failed⟩
      cases found.symm.trans named
      have none : ¬ ∃ request ∈ store.requests, Awaits id request := by
        rw [← inStep order found, failed]
        simp
      rcases covered order found delivered priced (by simp [failed]) with group | group | ⟨request, listed, awaits, -⟩
      · exact absurd ((outstanding group).symm.trans failed) (by simp)
      · obtain ⟨request, listed, awaits, -⟩ := stuck group
        exact none ⟨request, listed, awaits⟩
      · exact none ⟨request, listed, awaits⟩
    · rintro ⟨request, listed, awaits, exactly⟩
      have pending := (inStep order found).mpr ⟨request, listed, awaits⟩
      have only : ∀ other ∈ store.requests, Awaits id other → other = request := fun other there waits =>
        admitted.onePending other there request listed waits.2 awaits.2 (waits.1.trans awaits.1.symm)
      rcases covered order found delivered priced (by simp [pending]) with group | group | ⟨other, there, waits, young⟩
      · exact absurd ((outstanding group).symm.trans pending) (by simp)
      · obtain ⟨other, there, waits, old⟩ := stuck group
        rw [only other there waits] at old
        omega
      · rw [only other there waits] at young
        omega
  · intro sees order found delivered priced unpaid
    obtain ⟨sound, between⟩ := sees ⟨order, found, delivered, priced⟩
    have listed := List.mem_of_find?_eq_some found
    have named : order.id = id := by simpa using List.find?_some found
    cases status : order.paymentStatus with
    | paid => exact absurd status unpaid
    | failed => exact absurd ⟨order, found, status⟩ sound
    | unpaid =>
      exact .inl (List.mem_map.mpr ⟨order, List.mem_filter.mpr
        ⟨listed, decide_eq_true ⟨delivered, status, priced⟩⟩, named⟩)
    | pending =>
      -- A prompt is out: it is on the board once it is old enough.
      obtain ⟨request, there, awaits⟩ := (inStep order found).mp status
      rcases lt_trichotomy store.now (request.createdAt + stuckMinutes * minute) with young | exactly | old
      · exact .inr (.inr ⟨request, there, awaits, young⟩)
      · exact absurd ⟨request, there, awaits, exactly⟩ between
      · refine .inr (.inl (List.mem_filterMap.mpr ⟨request, List.mem_filter.mpr
          ⟨there, decide_eq_true ⟨awaits.2, old⟩⟩, ?_⟩))
        rw [awaits.1, found, Option.map_some, named]

end Freight.Payment
