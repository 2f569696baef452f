import Freight.Auth.Administration

/-! Whether somebody is left to administer the business, whatever administrators do to each other. -/

namespace Freight.Auth

open Dispatch (Role UserStatus User Requester)

variable {users : Users} {id : Nat}

/-- Somebody can administer the business. -/
def Governed (users : Users) : Prop := ∃ user ∈ users.rows, governs user = true

/-- The account a request is about to take an administrator's standing from, if it has it. -/
def AdminCall.unseats : AdminCall → Option Nat
  | .updateStatus user .suspended => some user.id
  | .updateRole id role => if role = .admin then none else some id
  | _ => none

/-- The count of the others is zero exactly when there are none. -/
theorem otherAdmins_ne_zero :
    otherAdmins users id ≠ 0 ↔ ∃ user ∈ users.rows, governs user = true ∧ user.id ≠ id := by
  -- A count is positive when there is something to count.
  unfold otherAdmins
  rw [← Nat.pos_iff_ne_zero, List.countP_pos_iff]
  simp only [Bool.and_eq_true, decide_eq_true_eq]

/-- Once an account is unseated, it is the others that count. -/
theorem governed_update_iff {change : User → User} {keeps : ∀ user, (change user).id = user.id}
    (unseated : ∀ user, governs (change user) = false) :
    Governed (users.update id change keeps) ↔ otherAdmins users id ≠ 0 := by
  rw [otherAdmins_ne_zero]
  unfold Governed Table.update Table.updateWhere
  simp only [List.mem_map]
  constructor
  · rintro ⟨_, ⟨user, member, rfl⟩, able⟩
    -- The row that governs is not the one that was changed.
    by_cases own : user.id = id
    · simp only [own, decide_true, if_true, unseated user, Bool.false_eq_true] at able
    · simp only [own, decide_false, Bool.false_eq_true, if_false] at able
      exact ⟨user, member, able, own⟩
  · rintro ⟨user, member, able, own⟩
    refine ⟨user, ⟨user, member, ?_⟩, able⟩
    simp only [own, decide_false, Bool.false_eq_true, if_false]

/-- A change that unseats nobody leaves somebody in charge. -/
theorem Governed.update (governed : Governed users) {change : User → User}
    {keeps : ∀ user, (change user).id = user.id}
    (stays : ∀ user, governs user = true → governs (change user) = true) :
    Governed (users.update id change keeps) := by
  -- Whoever was in charge still is, whether or not theirs is the row that changes.
  obtain ⟨user, member, able⟩ := governed
  refine ⟨if user.id = id then change user else user, List.mem_map.mpr ⟨user, member, ?_⟩, ?_⟩
  · simp only [decide_eq_true_eq]
  · split
    · exact stays user able
    · exact able

/-- A new account unseats nobody. -/
theorem Governed.insert (governed : Governed users) {row : Nat → User}
    {own : ∀ serial, (row serial).id = serial} : Governed (users.insert row own) := by
  -- The row goes behind those that are there.
  obtain ⟨user, member, able⟩ := governed
  exact ⟨user, List.mem_append_left _ member, able⟩

/-- A suspended account governs nothing. -/
theorem governs_suspended (user : User) :
    governs { user with status := Decision.suspended.status } = false := by
  -- To govern is to be an approved administrator.
  simp [governs, Decision.status]

/-- A demoted account governs nothing. -/
theorem governs_demoted {role : Role} (demoted : role ≠ .admin) (user : User) :
    governs { user with role := role } = false := by
  -- To govern is to be an administrator, and this is one no more.
  simp [governs, demoted]

/-- One statement leaves somebody in charge exactly when it is not the last administrator it unseats. -/
theorem governed_next_iff (governed : Governed users) (answer : DbAnswer) (call : AdminCall) :
    Governed ((call.next users answer).1.execute users) ↔
      (answer = .works → ∀ id, call.unseats = some id → otherAdmins users id ≠ 0) := by
  cases answer with
  | fails => exact iff_of_true governed fun works => by cases works
  | works =>
    simp only [forall_const]
    cases call with
    -- A suspension unseats who is suspended; an approval unseats nobody.
    | updateStatus user status =>
      cases status with
      | suspended =>
        refine (governed_update_iff governs_suspended).trans ⟨?_, fun others => others _ rfl⟩
        rintro others _ ⟨⟩
        exact others
      | approved =>
        refine iff_of_true (governed.update fun user able => ?_) fun _ none_ => by cases none_
        simp only [governs, Bool.and_eq_true, decide_eq_true_eq] at able ⊢
        exact ⟨able.1, rfl⟩
    -- A promotion unseats nobody either; any other role takes the administrator's away.
    | updateRole target role =>
      unfold AdminCall.unseats
      by_cases promoted : role = .admin
      · subst promoted
        refine iff_of_true (governed.update fun user able => ?_) fun _ none_ => by cases none_
        simp only [governs, Bool.and_eq_true, decide_eq_true_eq] at able ⊢
        exact ⟨trivial, able.2⟩
      · simp only [if_neg promoted, Option.some.injEq, forall_eq']
        exact governed_update_iff (governs_demoted promoted)
    -- The name may be taken, and then nothing is inserted.
    | insertUser username role =>
      refine iff_of_true ?_ fun _ none_ => by cases none_
      simp only [AdminCall.next, AdminCall.proceed]
      split
      · exact governed
      · exact governed.insert
    -- The rest only read, or write elsewhere.
    | readTarget requester target status =>
      refine iff_of_true ?_ fun _ none_ => by cases none_
      simp only [AdminCall.next, AdminCall.proceed]
      repeat' split
      all_goals exact governed
    | countOthers user =>
      refine iff_of_true ?_ fun _ none_ => by cases none_
      simp only [AdminCall.next, AdminCall.proceed]
      split <;> exact governed
    | readRole target role =>
      refine iff_of_true ?_ fun _ none_ => by cases none_
      simp only [AdminCall.next, AdminCall.proceed]
      repeat' split
      all_goals exact governed
    | revokeSessions _ | done _ | stopped => exact iff_of_true governed fun _ none_ => by cases none_

/--
Every UPDATE that suspends or demotes finds another administrator on record.

That is the count `updateUserStatus` takes some statements earlier, and `updateUserRole` never takes.
-/
def NeverTheLast (pool : Pool Users AdminCall) : PoolEvent AdminRequest DbAnswer Empty → Prop
  | .run index .works => ∀ call, pool.calls[index]? = some call →
      ∀ id, call.unseats = some id → otherAdmins pool.shared id ≠ 0
  | _ => True

/-- One event leaves somebody in charge exactly when it does not unseat the last administrator. -/
theorem governed_step_iff {lower : String → String} {pool : Pool Users AdminCall}
    (governed : Governed pool.shared) (event : PoolEvent AdminRequest DbAnswer Empty) :
    Governed ((administration lower).step pool event).shared ↔ NeverTheLast pool event := by
  -- Only a statement that runs can unseat anybody, and it runs at once: there are no locks to wait for.
  cases event with
  | call request => exact iff_of_true governed trivial
  | stop index => exact iff_of_true governed trivial
  | outside event => exact event.elim
  | run index answer =>
    have free (call : AdminCall) : (administration lower).Free
        ((administration lower).needs ((administration lower).next pool.shared answer call).1)
        (pool.calls.eraseIdx index) := fun _ _ _ needed => absurd needed List.not_mem_nil
    have here (call : AdminCall) (found : pool.calls[index]? = some call) :
        ((administration lower).step pool (.run index answer)).shared =
          (call.next pool.shared answer).1.execute pool.shared := by
      simp only [CallSystem.step, found, if_pos (free call)]
      rfl
    cases found : pool.calls[index]? with
    -- There is no such request, so nothing runs.
    | none =>
      have same : (administration lower).step pool (.run index answer) = pool := by
        simp only [CallSystem.step, found]
      rw [same]
      refine iff_of_true governed ?_
      cases answer with
      | fails => trivial
      | works =>
        intro call there
        rw [found] at there
        cases there
    -- There is one, and what it does is said above.
    | some call =>
      rw [here call found, governed_next_iff governed]
      cases answer with
      | fails => exact iff_of_true (fun works => by cases works) trivial
      | works =>
        refine ⟨fun others _ there => ?_, fun others _ => others call found⟩
        rw [found] at there
        cases there
        exact others rfl

/-- Somebody is in charge throughout, exactly where no UPDATE unseats the last administrator. -/
theorem governed_throughout_iff (lower : String → String) (users : Users) (governed : Governed users)
    (events : List (PoolEvent AdminRequest DbAnswer Empty)) :
    Throughout (administration lower).step (fun pool => Governed pool.shared) ⟨users, []⟩ events ↔
      Along (administration lower).step NeverTheLast ⟨users, []⟩ events :=
  throughout_iff_of_invariant (fun _ held => held)
    (fun _ event held after => (governed_step_iff held event).mp after)
    (fun _ event held never => (governed_step_iff held event).mpr never) governed

/-- Two administrators. -/
def twoAdmins : Users :=
  ⟨[{ id := 1, username := "ann", role := .admin }, { id := 2, username := "ben", role := .admin }],
    by decide⟩

/-- One suspends the other. -/
def suspends (one : String) (other : Nat) : PoolEvent AdminRequest DbAnswer Empty :=
  .call (.updateUserStatus { username := one, role := .admin } other (some "suspended"))

/-- Each suspends the other: both count while both are in charge. -/
def eachOther : List (PoolEvent AdminRequest DbAnswer Empty) :=
  [suspends "ann" 2, suspends "ben" 1, .run 0 .works, .run 1 .works, .run 0 .works, .run 1 .works,
    .run 0 .works, .run 1 .works]

/-- One is demoted after the other. -/
def demoted : List (PoolEvent AdminRequest DbAnswer Empty) :=
  [.call (.updateUserRole 2 (some "dispatcher")), .run 0 .works, .run 0 .works,
    .call (.updateUserRole 1 (some "dispatcher")), .run 1 .works, .run 1 .works]

/-- Nobody is in charge any more. -/
theorem nobody_governs :
    Governed twoAdmins ∧
      ¬ Throughout (administration fun role => role).step (fun pool => Governed pool.shared) ⟨twoAdmins, []⟩ demoted ∧
      ¬ Throughout (administration fun role => role).step (fun pool => Governed pool.shared) ⟨twoAdmins, []⟩ eachOther := by
  -- Nobody is in charge at the end of either run, so not throughout it.
  unfold Governed
  exact ⟨by decide, fun throughout => absurd throughout.last (by decide),
    fun throughout => absurd throughout.last (by decide)⟩

/-- One after the other. -/
def inTurn : List (PoolEvent AdminRequest DbAnswer Empty) :=
  [suspends "ann" 2, .run 0 .works, .run 0 .works, .run 0 .works, .run 0 .works, suspends "ben" 1, .run 1 .works,
    .run 1 .works]

/-- The second, who is suspended by then, is refused to suspend the last administrator. -/
theorem governed_in_turn :
    Throughout (administration fun role => role).step (fun pool => Governed pool.shared) ⟨twoAdmins, []⟩ inTurn ∧
      (run (administration fun role => role).step ⟨twoAdmins, []⟩ inTurn).calls[1]? =
        some (.done (.failed ⟨400, "ADMIN_USER_LAST_ADMIN",
          "This is the only active admin — promote another before suspending this one."⟩)) := by
  have governed : Governed twoAdmins := by
    unfold Governed
    decide
  refine ⟨(governed_throughout_iff (fun role => role) twoAdmins governed inTurn).mpr ?_, by decide⟩
  -- Only the third statement of the first request unseats anybody, and another administrator is left then.
  refine ⟨trivial, ?_, ?_, ?_, ?_, trivial, ?_, ?_, trivial⟩
  all_goals
    rintro call ⟨⟩ id ⟨⟩
  decide

end Freight.Auth
