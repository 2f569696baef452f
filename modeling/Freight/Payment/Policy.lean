import Freight.Payment.Cash

/-! What the driver app offers to collect, beside what the services take. -/

namespace Freight.Payment

/-- The word of `orders.status`. -/
def orderStatusWord : OrderStatus → Text
  | .pending => "PENDING".toList
  | .offered => "OFFERED".toList
  | .assigned => "ASSIGNED".toList
  | .atPickup => "AT_PICKUP".toList
  | .pickedUp => "PICKED_UP".toList
  | .inTransit => "IN_TRANSIT".toList
  | .arrived => "ARRIVED".toList
  | .delivered => "DELIVERED".toList
  | .cancelled => "CANCELLED".toList

/-- The word of `orders.payment_status`. -/
def paymentStatusWord : PaymentStatus → Text
  | .unpaid => "UNPAID".toList
  | .pending => "PENDING".toList
  | .paid => "PAID".toList
  | .failed => "FAILED".toList

/-- The word of `orders.payment_method`. -/
def paymentMethodWord : PaymentMethod → Text
  | .momo => "MOMO".toList
  | .cash => "CASH".toList

/-- What the app has been told about the money on a job. -/
structure PaymentFacts where
  status : Option Text := none
  paymentStatus : Option Text := none
  paymentMethod : Option Text := none
  /-- A `NUMERIC` comes as a string of digits, and is read back as that number. -/
  priceTotal : Option ℚ := none
  currency : Option Text := none
  priceIsEstimate : Option Bool := none

/-- What `getOrderById` returns of an order's money. -/
def getOrderById (order : Order) : PaymentFacts where
  status := some (orderStatusWord order.status)
  paymentStatus := some (paymentStatusWord order.paymentStatus)
  paymentMethod := order.paymentMethod.map paymentMethodWord
  priceTotal := order.priceTotal
  currency := order.currency
  priceIsEstimate := some order.priceIsEstimate

/-- Whether one way to pay is offered, and why not. -/
structure MethodVerdict where
  allowed : Bool := false
  reason : Option String := none
  deriving DecidableEq

/-- What the trip screen shows about the fare. -/
structure PaymentPolicy where
  shown : Bool := false
  paid : Bool := false
  paidLabel : Option String := none
  amount : Option Text := none
  currencyMissing : Bool := false
  momo : MethodVerdict := {}
  cash : MethodVerdict := {}
  note : Option String := none
  deriving DecidableEq

/-- The states the app takes money in. -/
def collectableFrom : List Text := ["IN_TRANSIT".toList, "ARRIVED".toList, "DELIVERED".toList]

section Screen

-- The language's own table of upper-case forms, and how it writes a figure in `en-RW`.
variable (upper : Char → Text) (toLocaleString : ℚ → Text)

/-- `normalise`. -/
def normalise (value : Option Text) : Text := toUpperCase upper (value.getD [])

/-- The amount, with its unit where there is one. -/
def formatAmount (price : Option ℚ) (currency : Option Text) : Option Text :=
  price.map fun amount =>
    let unit := trim (currency.getD [])
    if unit = [] then toLocaleString amount else toLocaleString amount ++ ' ' :: unit

/-- What may be done about the money on a job. -/
def paymentPolicy (order : Option PaymentFacts) : PaymentPolicy :=
  match order with
  | none => {}
  | some order =>
    let status := normalise upper order.status
    let currencyMissing := order.priceTotal.isSome && decide (trim (order.currency.getD []) = [])
    let amount := formatAmount toLocaleString order.priceTotal order.currency
    if status = "OFFERED".toList ∨ status = "CANCELLED".toList then {}
    else if normalise upper order.paymentStatus = "PAID".toList then
      let method := normalise upper order.paymentMethod
      { shown := true
        paid := true
        paidLabel :=
          if method = "CASH".toList then some "Paid in cash"
          else if method = "MOMO".toList then some "Paid by mobile money"
          else some "Paid"
        amount := amount
        currencyMissing := currencyMissing }
    else if order.priceTotal.isNone then
      { shown := true
        note := some "Dispatch has not put a price on this job yet, so there is nothing to collect." }
    else if order.priceIsEstimate.getD false then
      { shown := true
        amount := amount
        currencyMissing := currencyMissing
        note := some "This is an estimate, not a final price. Dispatch has to confirm it before anyone can be charged." }
    else if ¬ collectableFrom.contains status then
      { shown := true
        amount := amount
        currencyMissing := currencyMissing
        note := some "You can take the fare once you are on the road with this load." }
    else
      { shown := true
        amount := amount
        currencyMissing := currencyMissing
        note :=
          if status = "DELIVERED".toList then
            some "The goods are already handed over. You can still record the fare, but it is far easier to take it at the door."
          else none
        momo :=
          if currencyMissing then
            { reason := some "No currency on this job, so a mobile money prompt cannot be sent. Cash can still be recorded." }
          else { allowed := true }
        -- No look at a prompt that is on the customer's phone.
        cash := { allowed := true } }

end Screen

/-- The checks `requestPaymentForOrder` makes of the order's own state. -/
def requestChecks (order : Order) : Except PaymentError Unit :=
  match chargeable order with
  | .error refusal => .error refusal
  -- Once there is an amount, the currency is looked for.
  | .ok _ =>
    match order.currency with
    | none | some [] => .error { code := "PAYMENT_NO_CURRENCY", status := 409, message :=
        "This order has no currency on it, so it cannot be charged. Dispatch has to reprice it." }
    | some _ => .ok ()

/-- The checks `recordCashPayment` makes, up to the UPDATE. -/
def cashChecks (store : Store) (order : Order) : Except PaymentError Unit :=
  match cashGate (some order) with
  | .error refusal => .error refusal
  -- A prompt that is out may still be paid.
  | .ok _ =>
    match store.pendingRequest order.id with
    | some _ => .error { code := "PAYMENT_PROMPT_IN_FLIGHT", status := 409, message :=
        "A mobile money prompt is already on the customer's phone. Wait for it to finish or fail before taking cash." }
    | none => .ok ()

/-- A fare that is due: settled, unpaid, and on a job that is on the road. -/
structure FareDue (order : Order) : Prop where
  unpaid : order.paymentStatus ≠ .paid
  underway : order.status ∈ collectableStatuses
  priced : order.priceTotal ≠ none
  firm : order.priceIsEstimate = false

section Server

variable {cfg : Config} {store : Store} {order : Order} {orderId : Nat}

/-- Where a request's handset is not in question and no prompt is out, it is refused by these checks alone. -/
theorem request_by_checks {payFrom requestedBy : Option String} {target msisdn : String}
    (found : store.order orderId = some order) (configured : cfg.collectionConfigured = true)
    (handset : payable cfg order payFrom = .ok (target, msisdn)) (free : store.pendingRequest orderId = none) :
    ∃ read looked inserted,
      (RequestCall.next cfg store {} (.selectOrder orderId payFrom requestedBy)).2 = read ∧
      (RequestCall.next cfg store {} read).2 = looked ∧ (RequestCall.next cfg store {} looked).2 = inserted ∧
      match requestChecks order with
      | .error refusal => inserted = .done (.thrown refusal)
      | .ok _ => ∃ charge, inserted = .requestToPay store.nextId store.nextId charge := by
  -- Each of its statements answers as the checks do, in the order they are made.
  have own : order.id = orderId := by simpa using List.find?_some found
  refine ⟨_, _, _, rfl, rfl, rfl, ?_⟩
  unfold requestChecks
  cases allowed : chargeable order with
  | error refusal => simp [RequestCall.next, configured, found, chargeFor, allowed]
  | ok amount =>
    cases named : order.currency with
    | none => simp [RequestCall.next, configured, found, chargeFor, allowed, handset, own, free, named]
    | some currency =>
      cases currency <;>
        simp [RequestCall.next, configured, found, chargeFor, allowed, handset, own, free, named]

/-- A cash recording is refused by its checks, or gets to the UPDATE. -/
theorem cash_by_checks {collectedBy : Option String} (found : store.order orderId = some order) :
    ∃ read looked, (CashCall.next store {} (.selectOrder orderId collectedBy)).2 = read ∧
      (CashCall.next store {} read).2 = looked ∧
      match cashChecks store order with
      | .error refusal => looked = .done (.thrown refusal)
      | .ok _ => looked = .takeCash orderId collectedBy := by
  -- The gate is asked first, and then whether a prompt is out.
  have own : order.id = orderId := by simpa using List.find?_some found
  refine ⟨_, _, rfl, rfl, ?_⟩
  unfold cashChecks
  cases allowed : cashGate (some order) with
  | error refusal => simp [CashCall.next, found, allowed]
  | ok _ => cases out : store.pendingRequest order.id <;> simp_all [CashCall.next]

/-- An order may be charged when its fare is due. -/
theorem chargeable_iff_due : (∃ amount, chargeable order = .ok amount) ↔ FareDue order := by
  -- The four refusals are the four things that a due fare is not.
  constructor
  · rintro ⟨amount, allowed⟩
    obtain ⟨unpaid, underway, priced, firm⟩ := chargeable_ok allowed
    exact ⟨unpaid, by simpa using underway, by simp [priced], firm⟩
  · rintro ⟨unpaid, underway, priced, firm⟩
    obtain ⟨total, priced⟩ := Option.ne_none_iff_exists'.mp priced
    exact ⟨total, by simp [chargeable, unpaid, underway, priced, firm]⟩

/-- The request passes its checks on a due fare with a currency. -/
theorem requestChecks_ok : requestChecks order = .ok () ↔
    FareDue order ∧ ∃ currency, order.currency = some currency ∧ currency ≠ [] := by
  -- A due fare may be charged; what is left to refuse is an empty currency.
  rw [← chargeable_iff_due]
  unfold requestChecks
  cases chargeable order with
  | error refusal => simp
  | ok amount =>
    cases order.currency with
    | none => simp
    | some currency => cases currency <;> simp

/-- The gate of a cash recording lets the due fares through. -/
theorem cashGate_ok : cashGate (some order) = .ok () ↔ FareDue order := by
  -- The gate refuses what is no due fare, one check after the other.
  constructor
  · intro allowed
    simp only [cashGate] at allowed
    split at allowed <;> [cases allowed; skip]
    split at allowed <;> [cases allowed; skip]
    split at allowed <;> [cases allowed; skip]
    split at allowed <;> [cases allowed; skip]
    exact ⟨by assumption, by simp_all, by simp_all, by simp_all⟩
  · rintro ⟨unpaid, underway, priced, firm⟩
    simp [cashGate, unpaid, underway, priced, firm]

/-- Cash passes its checks on a due fare with no prompt out. -/
theorem cashChecks_ok : cashChecks store order = .ok () ↔
    FareDue order ∧ store.pendingRequest order.id = none := by
  -- Past the gate, what is left to refuse is a prompt that is out.
  rw [← cashGate_ok]
  unfold cashChecks
  cases cashGate (some order) with
  | error refusal => simp
  | ok _ => cases store.pendingRequest order.id <;> simp

end Server

section Words

variable {upper : Char → Text}

/-- Capitals and the underscore are their own upper-case forms. -/
def KeepsCapitals (upper : Char → Text) : Prop := ∀ char : Char, char.isUpper = true ∨ char = '_' → upper char = [char]

/-- A word of capitals is not changed. -/
theorem toUpperCase_capitals (capitals : KeepsCapitals upper) {word : Text}
    (each : (word.all fun char => char.isUpper || char = '_') = true) : toUpperCase upper word = word := by
  -- Letter by letter, each is a capital already or an underscore.
  unfold toUpperCase
  induction word with
  | nil => rfl
  | cons char rest ih =>
    rw [List.all_cons, Bool.and_eq_true] at each
    rw [List.flatMap_cons, capitals char (by simpa using each.1), ih each.2]
    rfl

/-- The words of the columns come out of `normalise` as they are. -/
theorem normalise_status (capitals : KeepsCapitals upper) (status : OrderStatus) :
    normalise upper (some (orderStatusWord status)) = orderStatusWord status :=
  toUpperCase_capitals capitals (by cases status <;> rfl)

/-- So do those of the payment status. -/
theorem normalise_paymentStatus (capitals : KeepsCapitals upper) (status : PaymentStatus) :
    normalise upper (some (paymentStatusWord status)) = paymentStatusWord status :=
  toUpperCase_capitals capitals (by cases status <;> rfl)

/-- What the app offers: cash on a due fare, and mobile money where its currency is more than blanks. -/
theorem paymentPolicy_offers (capitals : KeepsCapitals upper) (toLocaleString : ℚ → Text) (order : Order) :
    ((paymentPolicy upper toLocaleString (some (getOrderById order))).cash.allowed = true ↔ FareDue order) ∧
      ((paymentPolicy upper toLocaleString (some (getOrderById order))).momo.allowed = true ↔
        FareDue order ∧ trim (order.currency.getD []) ≠ []) := by
  -- The words decide what the columns they were read from would.
  have off : (orderStatusWord order.status = "OFFERED".toList ∨ orderStatusWord order.status = "CANCELLED".toList) ↔
      order.status = .offered ∨ order.status = .cancelled := by
    cases order.status <;> decide
  have paid : paymentStatusWord order.paymentStatus = "PAID".toList ↔ order.paymentStatus = .paid := by
    cases order.paymentStatus <;> decide
  have underway : collectableFrom.contains (orderStatusWord order.status) = true ↔
      order.status ∈ collectableStatuses := by
    cases order.status <;> decide
  have refused : order.status = .offered ∨ order.status = .cancelled → order.status ∉ collectableStatuses := by
    rintro (offered | cancelled)
    · rw [offered]
      decide
    · rw [cancelled]
      decide
  -- Where a gate closes, neither way is offered and the fare is not due.
  have neither {policy : PaymentPolicy} (cash : policy.cash.allowed = false) (momo : policy.momo.allowed = false)
      (not_due : ¬ FareDue order) : (policy.cash.allowed = true ↔ FareDue order) ∧
        (policy.momo.allowed = true ↔ FareDue order ∧ trim (order.currency.getD []) ≠ []) := by
    rw [cash, momo]
    exact ⟨iff_of_false Bool.false_ne_true not_due, iff_of_false Bool.false_ne_true fun both => not_due both.1⟩
  unfold paymentPolicy
  simp only [getOrderById, normalise_status capitals, normalise_paymentStatus capitals, off, paid]
  split
  · rename_i closed
    exact neither rfl rfl fun due => refused closed due.underway
  split
  · rename_i settled
    exact neither rfl rfl fun due => due.unpaid settled
  split
  · rename_i unpriced
    exact neither rfl rfl fun due => due.priced (Option.isNone_iff_eq_none.mp unpriced)
  split
  · rename_i estimate
    exact neither rfl rfl fun due => Bool.false_ne_true (due.firm.symm.trans estimate)
  split
  · rename_i early
    rw [underway] at early
    exact neither rfl rfl fun due => early due.underway
  · rename_i unpaid priced firm late
    have priced : order.priceTotal ≠ none := fun none => priced (Option.isNone_iff_eq_none.mpr none)
    have due : FareDue order := ⟨unpaid, underway.mp (not_not.mp late), priced, by simpa using firm⟩
    refine ⟨iff_of_true rfl due, ?_⟩
    by_cases blank : trim (order.currency.getD []) = [] <;>
      simp [blank, due, Option.isSome_iff_ne_none.mpr priced]

end Words

/-- The app offers each way to pay exactly when the services would take it. -/
def Agrees (policy : PaymentPolicy) (store : Store) (order : Order) : Prop :=
  (policy.momo.allowed = true ↔ requestChecks order = .ok ()) ∧
    (policy.cash.allowed = true ↔ cashChecks store order = .ok ())

/--
The app agrees with the services exactly where a fare that is due has no prompt out, and a currency on it,
if any is written, is not made of blanks.
-/
theorem agrees_iff_no_prompt_out (upper : Char → Text) (capitals : KeepsCapitals upper)
    (toLocaleString : ℚ → Text) (store : Store) (order : Order) :
    Agrees (paymentPolicy upper toLocaleString (some (getOrderById order))) store order ↔
      (FareDue order → store.pendingRequest order.id = none ∧
        ∀ currency, order.currency = some currency → currency ≠ [] → trim currency ≠ []) := by
  obtain ⟨cash, momo⟩ := paymentPolicy_offers capitals toLocaleString order
  unfold Agrees
  rw [cash, momo, requestChecks_ok, cashChecks_ok]
  by_cases due : FareDue order
  · simp only [due, true_and, true_iff, forall_const]
    rw [and_comm]
    refine and_congr_right fun _ => ?_
    cases named : order.currency with
    | none =>
      refine iff_of_true ⟨fun written => absurd rfl written, ?_⟩ (by simp)
      rintro ⟨currency, given, -⟩
      cases given
    | some currency =>
      -- What is left of a text without its blanks is not empty unless the text is.
      have empty : trim currency ≠ [] → currency ≠ [] := by
        rintro written rfl
        exact written rfl
      simp only [Option.getD_some, Option.some.injEq, exists_eq_left', forall_eq']
      exact ⟨fun same => same.mpr, fun written => ⟨empty, written⟩⟩
  · simp [due]

/-- A load at its door, with its fare due. -/
def loadAtTheDoor : Order where
  id := 7
  status := .arrived
  currency := some "RWF".toList
  priceTotal := some 12000
  priceIsEstimate := false

/-- The folding of ASCII. -/
theorem keepsCapitals_toUpper : KeepsCapitals fun char => [char.toUpper] := by
  rintro char (capital | rfl)
  · -- A capital is not among the letters that are moved.
    have low : ¬ (97 ≤ char.val) := by
      have range : 65 ≤ char.val ∧ char.val ≤ 90 := of_decide_eq_true capital
      exact fun high => absurd (UInt32.le_trans high range.2) (by decide)
    exact congrArg List.singleton (dif_neg fun both => low both.1)
  · rfl

/-- With no prompt out the app and the services agree on it. -/
theorem loadAtTheDoor_agreed : KeepsCapitals (fun char => [char.toUpper]) ∧
    Agrees (paymentPolicy (fun char => [char.toUpper]) (fun _ => "12,000".toList) (some (getOrderById loadAtTheDoor)))
      { orders := [loadAtTheDoor] } loadAtTheDoor := by
  -- It has a price and is to be paid in a currency written in capitals.
  refine ⟨keepsCapitals_toUpper,
    (agrees_iff_no_prompt_out _ keepsCapitals_toUpper _ _ _).mpr fun _ => ⟨rfl, fun currency named _ => ?_⟩⟩
  cases named
  decide

/-- A prompt for it is on the customer's phone. -/
def promptOut : Store where
  orders := [{ loadAtTheDoor with paymentStatus := .pending }]
  requests := [{ id := 1, orderId := 7, reference := 1, payerMsisdn := "250788123456",
                 payerIsBookingNumber := true, amount := 12000, currency := "RWF".toList, createdAt := 0 }]
  nextId := 2

/-- The app offers to record cash, which is refused while the prompt is out. -/
theorem cash_offered_with_prompt_out :
    ¬ ∀ (upper : Char → Text) (_ : KeepsCapitals upper) (toLocaleString : ℚ → Text) (store : Store),
      ∀ order ∈ store.orders,
        Agrees (paymentPolicy upper toLocaleString (some (getOrderById order))) store order := by
  intro all
  have agreed := all _ keepsCapitals_toUpper (fun _ => "12,000".toList) promptOut _ List.mem_cons_self
  -- The app reads the order, and nothing of the requests.
  have offered := (paymentPolicy_offers keepsCapitals_toUpper (fun _ => "12,000".toList)
    { loadAtTheDoor with paymentStatus := .pending }).1.mpr ⟨by decide, by decide, by decide, by decide⟩
  have taken := (cashChecks_ok.mp (agreed.2.mp offered)).2
  cases taken

end Freight.Payment
