import Freight.Payment.Locking

/-! What the locks give in every run: netted debts stay outstanding, claimed settlements stay pending. -/

namespace Freight.Payment

section
variable {store : Store}

/-- The debts a payout transaction has locked are outstanding, and what it clears is among them. -/
structure Netting.Held (store : Store) (netting : Netting) : Prop where
  within : netting.cleared <+: netting.locked
  distinct : (netting.locked.map Debt.orderId).Nodup
  owed : ∀ debt ∈ netting.locked, debt ∈ outstanding store netting.earning.driver

/-- A settlement's row is on record, pending once it is claimed, and so are the debts it clears. -/
structure Settling.Recorded (store : Store) (settling : Settling) : Prop where
  row : ∃ row ∈ store.settlements, row.id = settling.settlement.id ∧
    row.driverUsername = settling.settlement.driverUsername ∧
    row.amount = settling.settlement.amount ∧ row.currency = settling.settlement.currency ∧
    (settling.claimed = true → row.status = .pending)
  distinct : (settling.cleared.map Debt.orderId).Nodup
  booked : ∀ debt ∈ settling.cleared, Booked store settling.settlement.driverUsername debt

/-- Netted debts stay outstanding under a statement that writes under none of their locks. -/
theorem Netting.Held.execute {netting : Netting} (held : netting.Held store) {statement : Statement}
    (unguarded : ∀ debt ∈ netting.locked, debt.lock ∉ statement.guards) :
    netting.Held (statement.execute store) :=
  { held with owed := fun debt member =>
      outstanding_execute (held.owed debt member) (unguarded debt member) }

/-- A settlement stays on record, and pending under a statement that does not write under its lock. -/
theorem Settling.Recorded.execute {settling : Settling} (recorded : settling.Recorded store)
    {statement : Statement} (unguarded : settling.claimed = true →
      .settlement settling.settlement.id ∉ statement.guards) :
    settling.Recorded (statement.execute store) := by
  -- Its row is written by a verdict only, which takes its lock.
  obtain ⟨row, listed, id, driver, amount, currency, pending⟩ := recorded.row
  have same := onSettlement_same statement store.now row
  refine ⟨⟨_, mem_execute_settlements.mpr (.inl ⟨row, listed, rfl⟩), same.1.trans id,
    same.2.1.trans driver, same.2.2.1.trans amount, same.2.2.2.trans currency, fun claimed => ?_⟩,
    recorded.distinct, fun debt member => (recorded.booked debt member).execute statement⟩
  rw [onSettlement_status (id ▸ unguarded claimed) store.now]
  exact pending claimed

end

/-- What the locks keep of debts and settlements in every run. -/
structure UnderLock (cfg : Config) (store : Store) (calls : List PaymentCall) : Prop
    extends Keyed store calls where
  exclusive : (services cfg).Exclusive calls
  /-- Settlement ids are a primary key. -/
  settlements : (store.settlements.map CashSettlement.id).Nodup
  /-- They were drawn. -/
  serials : ∀ row ∈ store.settlements, row.id < store.nextId
  netted : ∀ call ∈ calls, ∀ netting, call.netting = some netting → netting.Held store
  recorded : ∀ call ∈ calls, ∀ settling, call.settling = some settling → settling.Recorded store

namespace UnderLock

variable {cfg : Config} {store : Store} {answer : Answer} {call : PaymentCall}
  {others : List PaymentCall}

/-- What a step writes under is held by its call, or waited for. -/
theorem guards_had (inv : UnderLock cfg store (call :: others)) :
    ∀ key ∈ (call.next cfg store answer).1.guards,
      key ∈ call.holds ∨ key ∈ (call.next cfg store answer).1.needs := by
  intro key guarded
  cases commissions : (call.next cfg store answer).1.commissions with
  | false =>
    rw [Statement.guards_nil commissions] at guarded
    cases guarded
  | true =>
    -- Only statements about commissions write under locks.
    have step := call.commissions_of_next commissions
    generalize (call.next cfg store answer).1 = statement at step guarded
    cases step with
    | nets _ found earning payoutId reference cleared locked queuing works =>
      have nets : call.netting = some { earning := earning, cleared := cleared, locked := locked } := by
        rw [PaymentCall.netting, queuing]
        rfl
      simp only [Statement.guards, List.map_map, List.mem_map, Function.comp_apply] at guarded
      obtain ⟨debt, member, rfl⟩ := guarded
      -- The debts that are cleared are among those that were locked.
      have within := (inv.netted call List.mem_cons_self _ nets).within
      exact .inl (call.holds_netting nets (within.subset member))
    | pays settlement verdict cleared works =>
      refine .inl ?_
      simp only [Statement.guards, List.map_map] at guarded
      exact guarded
    | hands => exact .inr guarded
    | fails => exact .inr guarded
    | raises => cases guarded

/-- What another call holds is not written under. -/
theorem unguarded {pool : PaymentPool} {index : Nat}
    (inv : UnderLock cfg pool.shared (call :: others))
    (taken : (services cfg).Taken pool index answer call others) {other : PaymentCall}
    (member : other ∈ others) {key : Lock} (held : key ∈ other.holds) :
    key ∉ (call.next cfg pool.shared answer).1.guards := fun guarded =>
  inv.exclusive.apart taken (inv.guards_had key guarded) member held

/-- What a step goes on netting is held. -/
theorem next_netted (inv : UnderLock cfg store (call :: others)) {netting : Netting}
    (nets : (call.next cfg store answer).2.netting = some netting) :
    netting.Held ((call.next cfg store answer).1.execute store) := by
  -- A call that goes on netting has not committed, so it writes under no lock.
  have quiet : (call.next cfg store answer).1.guards = [] := by
    refine Statement.guards_nil (Bool.eq_false_iff.mpr fun commissions => ?_)
    rw [(call.commissions_ends commissions).1] at nets
    cases nets
  refine Netting.Held.execute ?_ fun debt member => by simp [quiet]
  rcases call.next_netting nets with before | ⟨found, queuing, queues, nets⟩
  · exact inv.netted call List.mem_cons_self netting before
  · cases nets with
    | goes before =>
      exact inv.netted call List.mem_cons_self netting (by rw [PaymentCall.netting, queues]; exact before)
    | skips nothing none => exact ⟨by simp [nothing], by simp [none], by simp [none]⟩
    | reads payoutId reference locking works locked cleared =>
      exact ⟨cleared ▸ recoverLoop_prefix _ _ _, locked ▸ outstanding_distinct inv.orders _,
        fun debt member => locked ▸ member⟩

/-- What a step goes on settling is on record. -/
theorem next_recorded (inv : UnderLock cfg store (call :: others)) {settling : Settling}
    (settles : (call.next cfg store answer).2.settling = some settling) :
    settling.Recorded ((call.next cfg store answer).1.execute store) := by
  have quiet : (call.next cfg store answer).1.guards = [] := by
    refine Statement.guards_nil (Bool.eq_false_iff.mpr fun commissions => ?_)
    rw [(call.commissions_ends commissions).2] at settles
    cases settles
  refine Settling.Recorded.execute ?_ fun _ => by simp [quiet]
  cases call.next_settling settles with
  | reads listed unclaimed nothing =>
    exact ⟨⟨_, listed, rfl, rfl, rfl, rfl, by simp [unclaimed]⟩, by simp [nothing], by simp [nothing]⟩
  | goes before => exact inv.recorded call List.mem_cons_self settling before
  | claims before pending nothing =>
    obtain ⟨row, listed, id, driver, amount, currency, -⟩ :=
      (inv.recorded call List.mem_cons_self _ before).row
    -- The id names one row, so the pending one is the row that was read.
    obtain ⟨other, also, both⟩ := List.any_eq_true.mp pending
    simp only [Bool.and_eq_true, decide_eq_true_eq] at both
    have same := List.inj_on_of_nodup_map inv.settlements also listed (both.1.trans id.symm)
    exact ⟨⟨row, listed, id, driver, amount, currency, fun _ => same ▸ both.2⟩, by simp [nothing],
      by simp [nothing]⟩
  | covers verdict reading works cleared =>
    have within := settleLoop_prefix settling.settlement.amount
      (outstanding store settling.settlement.driverUsername)
    rw [← cleared] at within
    refine ⟨?_, (outstanding_distinct inv.orders _).sublist (within.sublist.map _),
      fun debt member => booked_of_outstanding (within.subset member)⟩
    obtain ⟨row, listed, id, driver, amount, currency, pending⟩ :=
      (inv.recorded call List.mem_cons_self
        { settlement := settling.settlement, claimed := true } (by rw [reading]; rfl)).row
    exact ⟨row, listed, id, driver, amount, currency, fun _ => pending rfl⟩

end UnderLock

/-- New settlement rows are drawn, whatever statement is run. -/
theorem settlements_execute {cfg : Config} {store : Store} {answer : Answer} {call : PaymentCall}
    (distinct : (store.settlements.map CashSettlement.id).Nodup)
    (serials : ∀ row ∈ store.settlements, row.id < store.nextId) :
    (((call.next cfg store answer).1.execute store).settlements.map CashSettlement.id).Nodup ∧
      ∀ row ∈ ((call.next cfg store answer).1.execute store).settlements,
        row.id < ((call.next cfg store answer).1.execute store).nextId := by
  -- Writing a settlement keeps its id.
  have ids : (store.settlements.map ((call.next cfg store answer).1.onSettlement store.now)).map
      CashSettlement.id = store.settlements.map CashSettlement.id := by
    simp [Function.comp_def, (onSettlement_same _ _ _).1]
  have grows := nextId_le_execute (call.next cfg store answer).1 store
  by_cases inserts : ∃ row, (call.next cfg store answer).1 = .insertSettlement row
  · obtain ⟨row, inserts⟩ := inserts
    have step := @PaymentCall.commissions_of_next cfg store answer call (by rw [inserts]; rfl)
    rw [inserts] at step ids ⊢
    -- A new settlement takes the next number.
    have drawn : row.id = store.nextId := by
      cases step
      rfl
    have rows : ((Statement.insertSettlement row).execute store).settlements =
        store.settlements.map ((Statement.insertSettlement row).onSettlement store.now) ++ [row] := rfl
    have next : ((Statement.insertSettlement row).execute store).nextId = store.nextId + 1 := rfl
    rw [rows, next, List.map_append, ids]
    refine ⟨List.nodup_append.mpr ⟨distinct, by simp, fun id listed other new same => ?_⟩, ?_⟩
    · obtain ⟨old, found, rfl⟩ := List.mem_map.mp listed
      have below := serials old found
      rw [same, List.map_singleton, List.mem_singleton] at *
      omega
    · intro one member
      rcases List.mem_append.mp member with old | new
      · obtain ⟨before, listed, rfl⟩ := List.mem_map.mp old
        have below := serials before listed
        rw [(onSettlement_same _ _ _).1]
        omega
      · rw [List.mem_singleton.mp new]
        omega
  · have rows : ((call.next cfg store answer).1.execute store).settlements =
        store.settlements.map ((call.next cfg store answer).1.onSettlement store.now) := by
      generalize (call.next cfg store answer).1 = statement at inserts
      cases statement with
      | insertSettlement row => exact absurd ⟨row, rfl⟩ inserts
      | _ => exact List.append_nil _
    rw [rows, ids]
    refine ⟨distinct, ?_⟩
    simp only [List.forall_mem_map, (onSettlement_same _ _ _).1]
    exact fun row listed => (serials row listed).trans_le grows

/-- Every event whatever keeps what is under lock. -/
theorem underLock_keeps (cfg : Config) : (services cfg).Keeps (UnderLock cfg) fun _ _ => True where
  perm same inv :=
    { (keyed_keeps cfg).perm same inv.toKeyed, inv with
      exclusive := inv.exclusive.perm same
      netted := fun call member => inv.netted call (same.mem_iff.mpr member)
      recorded := fun call member => inv.recorded call (same.mem_iff.mpr member) }
  moves := by
    intro pool index answer call others taken inv _
    obtain ⟨distinct, serials⟩ := @settlements_execute cfg _ answer call inv.settlements inv.serials
    refine {
      toKeyed := (keyed_keeps cfg).moves taken inv.toKeyed trivial
      exclusive := (services_disciplined cfg).exclusive_keeps.moves taken inv.exclusive trivial
      settlements := distinct
      serials := serials
      netted := fun one member netting nets => ?_
      recorded := fun one member settling settles => ?_ }
    -- It is the call that moved, or one beside it, whose locks the mover does not hold.
    · rcases List.mem_cons.mp member with rfl | other
      · exact inv.next_netted nets
      · exact (inv.netted one (List.mem_cons_of_mem _ other) netting nets).execute fun debt locked =>
          inv.unguarded taken other (one.holds_netting nets locked)
    · rcases List.mem_cons.mp member with rfl | other
      · exact inv.next_recorded settles
      · exact (inv.recorded one (List.mem_cons_of_mem _ other) settling settles).execute fun claimed =>
          inv.unguarded taken other (one.holds_settling settles claimed)
  arrives := by
    intro pool entry inv _
    -- A call that begins has locked nothing.
    have nothing : entry.start.netting = none ∧ entry.start.settling = none := by
      cases entry <;> exact ⟨rfl, rfl⟩
    refine {
      toKeyed := (keyed_keeps cfg).arrives inv.toKeyed trivial
      exclusive := (services_disciplined cfg).exclusive_keeps.arrives inv.exclusive trivial
      settlements := inv.settlements
      serials := inv.serials
      netted := fun one member netting nets => ?_
      recorded := fun one member settling settles => ?_ }
    · rcases List.mem_cons.mp member with rfl | old
      · exact absurd (nothing.1.symm.trans nets) (by simp)
      · exact inv.netted one old netting nets
    · rcases List.mem_cons.mp member with rfl | old
      · exact absurd (nothing.2.symm.trans settles) (by simp)
      · exact inv.recorded one old settling settles
  stops := by
    intro pool index call others found inv _
    refine {
      toKeyed := (keyed_keeps cfg).stops found inv.toKeyed trivial
      exclusive := (services_disciplined cfg).exclusive_keeps.stops found inv.exclusive trivial
      settlements := inv.settlements
      serials := inv.serials
      netted := fun one member netting nets => ?_
      recorded := fun one member settling settles => ?_ }
    · rcases List.mem_cons.mp member with rfl | other
      · cases nets
      · exact inv.netted one (List.mem_cons_of_mem _ other) netting nets
    · rcases List.mem_cons.mp member with rfl | other
      · cases settles
      · exact inv.recorded one (List.mem_cons_of_mem _ other) settling settles
  happens := by
    intro pool event inv _ free
    -- No event outside writes a settlement.
    have rows : ((services cfg).outside event pool.shared).settlements = pool.shared.settlements ∧
        ((services cfg).outside event pool.shared).nextId = pool.shared.nextId := by
      cases event <;> exact ⟨rfl, rfl⟩
    refine {
      toKeyed := (keyed_keeps cfg).happens inv.toKeyed trivial free
      exclusive := inv.exclusive
      settlements := by rw [rows.1]; exact inv.settlements
      serials := by rw [rows.1, rows.2]; exact inv.serials
      netted := fun one member netting nets => ?_
      recorded := fun one member settling settles => ?_ }
    · have held := inv.netted one member netting nets
      exact { held with owed := fun debt locked => happen_outstanding (held.owed debt locked) }
    · have recorded := inv.recorded one member settling settles
      exact ⟨by rw [rows.1]; exact recorded.row, recorded.distinct,
        fun debt cleared => (recorded.booked debt cleared).happen event⟩

end Freight.Payment
