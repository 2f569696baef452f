import Freight.Dispatch.SameGates
import Freight.Library.ByKey

/-! Who is cleared to carry cargo: the gate of an assignment, and the two screens that repeat it. -/

namespace Freight.Dispatch

variable {cfg : DispatchConfig} {board : Board} {driver : User}

/-- What the schema promises of the papers: a holder has one of each type, a vehicle only its own types. -/
structure Board.OnePaperEach (board : Board) : Prop where
  /-- `UNIQUE (username, document_type)`. -/
  personal : (board.driverDocuments.map fun paper => (paper.holder, paper.documentType)).Nodup
  /-- `UNIQUE (vehicle_id, document_type)`. -/
  ofVehicles : (board.vehicleDocuments.map fun paper => (paper.holder, paper.documentType)).Nodup
  /-- `vehicle_documents_type_check`. -/
  vehicleTypes : ∀ paper ∈ board.vehicleDocuments, paper.documentType ∈ vehicleDocumentTypes

/-- `REQUIRED_DOCUMENT_TYPES`. -/
def requiredDocumentTypes : List DocumentType := driverDocumentTypes ++ vehicleDocumentTypes

/-- The papers of the vehicles in service that a driver holds. -/
def Board.papersAboard (board : Board) (driver : User) : List (Document Nat) :=
  board.vehicleDocuments.filter fun paper =>
    (board.vehicles.find? paper.holder).any fun vehicle => vehicle.servesAs driver

/-- The verified flag of `getUsers`, which only drivers have. -/
def usersVerified (board : Board) (user : User) : Option Bool :=
  let approved := board.driverDocuments.countP fun paper =>
    paper.holder = user.username && driverDocumentTypes.contains paper.documentType &&
      board.counts paper
  -- This query joins the vehicles by the driver's id, and not through the driver's row.
  let approvedOfVehicles := board.vehicleDocuments.countP fun paper =>
    vehicleDocumentTypes.contains paper.documentType && board.counts paper &&
      (board.vehicles.find? paper.holder).any fun vehicle =>
        vehicle.status = "ACTIVE" && vehicle.currentDriverId = some user.id
  if user.role = .driver then
    some (approved = driverDocumentTypes.length && approvedOfVehicles = vehicleDocumentTypes.length)
  else none

/-- A paper as the checklist reads it, whoever holds it. -/
def Document.listed {Holder : Type} (paper : Document Holder) : Document Unit :=
  { paper with holder := () }

/-- The rows `getMyDocuments` reads, which come in no particular order. -/
def Board.myPapers (board : Board) (driver : User) : List (Document Unit) :=
  (board.driverDocuments.filter fun paper =>
    paper.holder = driver.username && driverDocumentTypes.contains paper.documentType).map
      Document.listed ++ (board.papersAboard driver).map Document.listed

/-- A line of the checklist that is settled: what is found under the type is approved and not expired. -/
def Board.settles (board : Board) (paper : Document Unit) : Bool :=
  paper.status = .approved && !paper.expiresAt.any (· ≤ board.now)

/-- The verified flag of `getMyDocuments`, from the rows in the order they came in. -/
def myVerified (board : Board) (rows : List (Document Unit)) : Bool :=
  requiredDocumentTypes.all fun type =>
    (fromEntries Document.documentType rows type).any board.settles

/-- Both of the driver's own papers are approved and have not expired. -/
def Board.DriverInOrder (board : Board) (driver : User) : Prop :=
  ∀ type ∈ driverDocumentTypes, ∃ paper ∈ board.driverDocuments,
    paper.holder = driver.username ∧ paper.documentType = type ∧ board.counts paper = true

/-- All three papers of a vehicle are approved and have not expired. -/
def Board.VehicleInOrder (board : Board) (vehicle : FleetVehicle) : Prop :=
  ∀ type ∈ vehicleDocumentTypes, ∃ paper ∈ board.vehicleDocuments,
    paper.holder = vehicle.id ∧ paper.documentType = type ∧ board.counts paper = true

/-- The driver's papers are in order, and so are those of the vehicle their cargo goes on. -/
def Board.Cleared (board : Board) (driver : User) : Prop :=
  board.DriverInOrder driver ∧
    ∃ vehicle, board.vehicleOf driver.id = some vehicle ∧ board.VehicleInOrder vehicle

/-- A driver is verified exactly when they and the vehicle that will carry the load are in order. -/
structure VerifiedExactly (cfg : DispatchConfig) (board : Board) (driver : User) : Prop where
  /-- A request that comes as far as the driver's papers is let through exactly then. -/
  gate : ∀ requester orderIds, dispatchRoles.contains requester.role = true → orderIds ≠ [] →
    trim driver.username.toList ≠ [] → board.vehiclesOf driver.id ≠ [] →
      (assignOrderBundle cfg board requester orderIds driver.username ≠
        .error (.unverified driver.username) ↔ board.Cleared driver)
  /-- The vehicle it then writes into the orders is the one that was meant. -/
  written : ∀ requester orderIds later,
    assignOrderBundle cfg board requester orderIds driver.username = .ok later →
      ∀ id ∈ orderIds, ∀ order, later.order id = some order →
        order.vehicleId = (board.vehicleOf driver.id).map FleetVehicle.id
  /-- The list of users says the same. -/
  users : usersVerified board driver = some true ↔ board.Cleared driver
  /-- So does the driver's own checklist, in whatever order its rows come. -/
  mine : ∀ rows, rows.Perm (board.myPapers driver) →
    (myVerified board rows = true ↔ board.Cleared driver)

/--
When the papers that are counted speak for the vehicle that is used.

Nothing is asked of a driver whose own papers fail, who is verified nowhere.
-/
def Board.PapersAgree (board : Board) (driver : User) : Prop :=
  board.DriverInOrder driver →
    -- With the vehicle in order, there is one paper of each type aboard, and it counts.
    (board.Cleared driver → ∀ type ∈ vehicleDocumentTypes, ∃ paper,
      (board.papersAboard driver).filter (fun paper => paper.documentType = type) = [paper] ∧
        board.counts paper = true) ∧
    -- Without, a type is missing aboard, and those that count do not happen to be three.
    (¬ board.Cleared driver →
      (∃ type ∈ vehicleDocumentTypes, ∀ paper ∈ board.papersAboard driver,
        paper.documentType = type → board.counts paper = false) ∧
      (board.papersAboard driver).countP board.counts ≠ vehicleDocumentTypes.length)

/-- A driver's own papers of the types a person holds. -/
def Board.personalPapers (board : Board) (driver : User) : List (Document String) :=
  board.driverDocuments.filter fun paper =>
    paper.holder = driver.username && driverDocumentTypes.contains paper.documentType

/-- Whose they are, and of which types. -/
theorem mem_personalPapers {paper : Document String} :
    paper ∈ board.personalPapers driver ↔ paper ∈ board.driverDocuments ∧
      paper.holder = driver.username ∧ paper.documentType ∈ driverDocumentTypes := by
  -- The query's WHERE has these two conditions.
  simp [Board.personalPapers]

/-- Two of a driver's own papers are of different types. -/
theorem personalPapers_distinct (one : board.OnePaperEach) :
    ((board.personalPapers driver).map Document.documentType).Nodup := by
  -- Among one person's papers the type alone tells them apart.
  have pairs : ((board.personalPapers driver).map
      fun paper => (paper.holder, paper.documentType)).Nodup :=
    one.personal.sublist (List.filter_sublist.map _)
  have tagged : (board.personalPapers driver).map (fun paper => (paper.holder, paper.documentType)) =
      ((board.personalPapers driver).map Document.documentType).map (driver.username, ·) := by
    rw [List.map_map]
    refine List.map_congr_left fun paper member => ?_
    simp [(mem_personalPapers.mp member).2.1]
  rw [tagged] at pairs
  exact pairs.of_map _

/-- Both personal papers are in order exactly when as many count as are asked for. -/
theorem driverInOrder_iff (one : board.OnePaperEach) :
    (board.personalPapers driver).countP board.counts = driverDocumentTypes.length ↔
      board.DriverInOrder driver := by
  rw [List.countP_eq_length_filter, length_eq_iff_covers
    ((personalPapers_distinct one).sublist (List.filter_sublist.map _)) ?_ (by decide)]
  · unfold Board.DriverInOrder
    refine forall₂_congr fun type listed => ?_
    -- The types asked about are those of the list, so the query's own test of them is met.
    simp only [List.mem_filter, mem_personalPapers]
    constructor
    · rintro ⟨paper, ⟨⟨mine, own, -⟩, fine⟩, rfl⟩
      exact ⟨paper, mine, own, rfl, fine⟩
    · rintro ⟨paper, mine, own, rfl, fine⟩
      exact ⟨paper, ⟨⟨mine, own, listed⟩, fine⟩, rfl⟩
  · intro paper member
    exact (mem_personalPapers.mp (List.mem_filter.mp member).1).2.2

/-- What aboard counts for the gate: the papers of vehicles have no types but the three. -/
theorem countP_aboard (one : board.OnePaperEach) :
    (board.vehicleDocuments.countP fun paper =>
      vehicleDocumentTypes.contains paper.documentType && board.counts paper &&
        (board.vehicles.find? paper.holder).any fun vehicle => vehicle.servesAs driver) =
      (board.papersAboard driver).countP board.counts := by
  -- Papers of vehicles are of the three types, so asking for the type leaves none out.
  unfold Board.papersAboard
  rw [List.countP_filter]
  refine List.countP_congr fun paper member => ?_
  have typed := List.contains_iff_mem.mpr (one.vehicleTypes paper member)
  simp only [typed, Bool.true_and]

/-- The list of users counts what the gate counts. -/
theorem usersVerified_iff (one : board.OnePaperEach) (drives : driver.role = .driver) :
    usersVerified board driver = some true ↔ board.DriverInOrder driver ∧
      (board.papersAboard driver).countP board.counts = vehicleDocumentTypes.length := by
  rw [← driverInOrder_iff one, ← countP_aboard one, Board.personalPapers, List.countP_filter]
  unfold usersVerified FleetVehicle.servesAs
  simp only [drives, if_true, Option.some.injEq, Bool.and_eq_true, decide_eq_true_eq]
  -- The two queries name the same conditions in another order.
  simp only [Bool.and_comm]

/-- The gate of an assignment counts the same. -/
theorem isDriverVerified_eq (found : board.registeredDriver driver.username = some driver) :
    isDriverVerified board driver.username = true ↔ usersVerified board driver = some true := by
  -- A registered driver is found under their name, and both count the same rows.
  obtain ⟨row, drives⟩ := Option.filter_eq_some_iff.mp found
  unfold isDriverVerified usersVerified FleetVehicle.servesAs
  simp only [row, Option.any_some, of_decide_eq_true drives, if_true, Option.some.injEq,
    Bool.and_comm]

/-- The checklist asks of a paper what the gate asks. -/
theorem settles_listed {Holder : Type} (paper : Document Holder) :
    board.settles paper.listed = board.counts paper := by
  -- Not to have lapsed by now is to lapse later, where a date is recorded at all.
  unfold Board.settles Board.counts Document.listed
  cases paper.expiresAt <;> simp [← decide_not]

/-- The rows under a personal type are the driver's own papers of it. -/
theorem myPapers_personal (one : board.OnePaperEach) {type : DocumentType}
    (personal : type ∈ driverDocumentTypes) (row : Document Unit) :
    row ∈ board.myPapers driver ∧ row.documentType = type ↔
      ∃ paper ∈ board.personalPapers driver, paper.documentType = type ∧ paper.listed = row := by
  unfold Board.myPapers
  rw [List.mem_append, List.mem_map, List.mem_map]
  constructor
  · rintro ⟨⟨paper, mine, rfl⟩ | ⟨paper, aboard, rfl⟩, rfl⟩
    · exact ⟨paper, mine, rfl, rfl⟩
    · -- A vehicle's paper is of one of the vehicle's types, and those are not personal.
      have typed := one.vehicleTypes paper (List.mem_filter.mp aboard).1
      exact absurd personal
        ((by decide : ∀ type ∈ vehicleDocumentTypes, type ∉ driverDocumentTypes) _ typed)
  · rintro ⟨paper, mine, rfl, rfl⟩
    exact ⟨.inl ⟨paper, mine, rfl⟩, rfl⟩

/-- The rows under a type of the vehicle are the papers of it aboard. -/
theorem myPapers_aboard {type : DocumentType} (ofVehicle : type ∈ vehicleDocumentTypes)
    (row : Document Unit) :
    row ∈ board.myPapers driver ∧ row.documentType = type ↔
      ∃ paper ∈ board.papersAboard driver, paper.documentType = type ∧ paper.listed = row := by
  unfold Board.myPapers
  rw [List.mem_append, List.mem_map, List.mem_map]
  constructor
  · rintro ⟨⟨paper, mine, rfl⟩ | ⟨paper, aboard, rfl⟩, rfl⟩
    · -- The query reads only the personal types of the driver's papers.
      have typed := (mem_personalPapers.mp mine).2.2
      exact absurd ofVehicle
        ((by decide : ∀ type ∈ driverDocumentTypes, type ∉ vehicleDocumentTypes) _ typed)
    · exact ⟨paper, aboard, rfl, rfl⟩
  · rintro ⟨paper, aboard, rfl, rfl⟩
    exact ⟨.inr ⟨paper, aboard, rfl⟩, rfl⟩

/-- Some paper of each type of the vehicle counts among those aboard. -/
def Board.SomeAboard (board : Board) (driver : User) : Prop :=
  ∀ type ∈ vehicleDocumentTypes, ∃ paper ∈ board.papersAboard driver,
    paper.documentType = type ∧ board.counts paper = true

/-- There is a paper of each type of the vehicle aboard, and none aboard fails to count. -/
def Board.AllAboard (board : Board) (driver : User) : Prop :=
  ∀ type ∈ vehicleDocumentTypes,
    (∃ paper ∈ board.papersAboard driver, paper.documentType = type) ∧
      ∀ paper ∈ board.papersAboard driver, paper.documentType = type → board.counts paper = true

/-- The checklist is all settled for some order of its rows when each type has a row that counts. -/
theorem exists_myVerified (one : board.OnePaperEach) :
    (∃ rows, rows.Perm (board.myPapers driver) ∧ myVerified board rows = true) ↔
      board.DriverInOrder driver ∧ board.SomeAboard driver := by
  simp only [myVerified, List.all_eq_true]
  rw [exists_order_iff, requiredDocumentTypes, List.forall_mem_append]
  refine and_congr (forall₂_congr fun type personal => ?_) (forall₂_congr fun type ofVehicle => ?_)
  · constructor
    · rintro ⟨row, mine, typed, fine⟩
      -- A row under a personal type is a paper of the driver.
      obtain ⟨paper, held, own, rfl⟩ := (myPapers_personal one personal row).mp ⟨mine, typed⟩
      obtain ⟨listed, whose, -⟩ := mem_personalPapers.mp held
      exact ⟨paper, listed, whose, own, (settles_listed paper).symm.trans fine⟩
    · rintro ⟨paper, listed, own, rfl, fine⟩
      have held := mem_personalPapers.mpr ⟨listed, own, personal⟩
      obtain ⟨mine, kind⟩ := (myPapers_personal one personal paper.listed).mpr ⟨paper, held, rfl, rfl⟩
      exact ⟨paper.listed, mine, kind, (settles_listed paper).trans fine⟩
  · constructor
    · rintro ⟨row, mine, typed, fine⟩
      -- A row under a type of the vehicle is a paper aboard.
      obtain ⟨paper, held, own, rfl⟩ := (myPapers_aboard ofVehicle row).mp ⟨mine, typed⟩
      exact ⟨paper, held, own, (settles_listed paper).symm.trans fine⟩
    · rintro ⟨paper, held, typed, fine⟩
      obtain ⟨mine, kind⟩ := (myPapers_aboard ofVehicle paper.listed).mpr ⟨paper, held, typed, rfl⟩
      exact ⟨paper.listed, mine, kind, (settles_listed paper).trans fine⟩

/-- It is all settled for every order when each type has a row, and none of them fails to count. -/
theorem forall_myVerified (one : board.OnePaperEach) :
    (∀ rows, rows.Perm (board.myPapers driver) → myVerified board rows = true) ↔
      board.DriverInOrder driver ∧ board.AllAboard driver := by
  simp only [myVerified, List.all_eq_true]
  rw [forall_order_iff, requiredDocumentTypes, List.forall_mem_append]
  refine and_congr (forall₂_congr fun type personal => ?_) (forall₂_congr fun type ofVehicle => ?_)
  · constructor
    · rintro ⟨⟨row, mine, typed⟩, fine⟩
      obtain ⟨paper, held, own, rfl⟩ := (myPapers_personal one personal row).mp ⟨mine, typed⟩
      obtain ⟨listed, whose, -⟩ := mem_personalPapers.mp held
      exact ⟨paper, listed, whose, own, (settles_listed paper).symm.trans (fine _ mine typed)⟩
    · rintro ⟨paper, listed, own, rfl, fine⟩
      have held := mem_personalPapers.mpr ⟨listed, own, personal⟩
      obtain ⟨mine, kind⟩ := (myPapers_personal one personal paper.listed).mpr ⟨paper, held, rfl, rfl⟩
      refine ⟨⟨paper.listed, mine, kind⟩, fun row there typed' => ?_⟩
      -- A person has one paper of the type, so any row under it is this one.
      obtain ⟨other, held', own', rfl⟩ := (myPapers_personal one personal row).mp ⟨there, typed'⟩
      rw [List.inj_on_of_nodup_map (personalPapers_distinct one) held' held own', settles_listed]
      exact fine
  · constructor
    · rintro ⟨⟨row, mine, typed⟩, fine⟩
      obtain ⟨paper, held, own, rfl⟩ := (myPapers_aboard ofVehicle row).mp ⟨mine, typed⟩
      refine ⟨⟨paper, held, own⟩, fun other held' own' => ?_⟩
      obtain ⟨mine', kind⟩ := (myPapers_aboard ofVehicle other.listed).mpr ⟨other, held', own', rfl⟩
      exact (settles_listed other).symm.trans (fine _ mine' kind)
    · rintro ⟨⟨paper, held, own⟩, fine⟩
      obtain ⟨mine, kind⟩ := (myPapers_aboard ofVehicle paper.listed).mpr ⟨paper, held, own, rfl⟩
      refine ⟨⟨paper.listed, mine, kind⟩, fun row there typed => ?_⟩
      obtain ⟨other, held', own', rfl⟩ := (myPapers_aboard ofVehicle row).mp ⟨there, typed⟩
      exact (settles_listed other).trans (fine other held' own')

/-- The cash a driver holds is no matter of papers. -/
theorem cashHoldFor_ne_unverified (name other : String) :
    cashHoldFor cfg board name ≠ some (.unverified other) := by
  -- The hold, where there is one, is for cash.
  unfold cashHoldFor
  simp only
  split <;> simp

/-- Neither is the weight of the load. -/
theorem checkCapacity_ne_unverified {vehicle : FleetVehicle} {current new : ℚ≥0} {name : String} :
    checkCapacity vehicle current new ≠ .error (.unverified name) := by
  -- Its one refusal is about weight.
  unfold checkCapacity
  split
  · simp
  · simp [require_error]

/-- A request that comes as far as the driver's papers is refused for them when the gate is shut. -/
theorem assign_unverified {requester : Requester} {orderIds : List Nat}
    (allowed : dispatchRoles.contains requester.role = true) (some_ : orderIds ≠ [])
    (named : trim driver.username.toList ≠ [])
    (found : board.registeredDriver driver.username = some driver)
    (holds : board.vehiclesOf driver.id ≠ []) :
    assignOrderBundle cfg board requester orderIds driver.username =
        .error (.unverified driver.username) ↔ isDriverVerified board driver.username = false := by
  obtain ⟨vehicle, goes⟩ := Option.isSome_iff_exists.mp (Board.vehicleOf_isSome.mpr holds)
  have listed : orderIds.isEmpty = false := by simpa using some_
  unfold assignOrderBundle
  -- The checks before the gate are passed, and those after it fail in their own words.
  simp only [bind_error, allow, require_error, require_ok, demand_error, demand_ok, refuse_error,
    refuse_ok, allowed, listed, found, goes, named, ne_eq, not_false_eq_true, decide_true,
    Bool.not_false, Bool.true_eq_false, false_or, true_and, exists_const,
    reduceCtorEq, Option.some.injEq, exists_eq_left', and_true, cashHoldFor_ne_unverified,
    checkCapacity_ne_unverified, and_false, or_false, pure, Except.pure]

/-- The orders of a bundle are written to the vehicle the driver's cargo goes on. -/
theorem assigned_vehicle {requester : Requester} {orderIds : List Nat} {later : Board}
    (found : board.registeredDriver driver.username = some driver)
    (done : assignOrderBundle cfg board requester orderIds driver.username = .ok later)
    {id : Nat} (member : id ∈ orderIds) {order : DispatchOrder} (left : later.order id = some order) :
    order.vehicleId = (board.vehicleOf driver.id).map FleetVehicle.id := by
  obtain ⟨-, -, -, holder, again, vehicle, goes, -, -, -, -, -, rfl⟩ := assignOrderBundle_accepted.mp done
  obtain rfl := Option.some.inj (found.symm.trans again)
  -- Every order of the bundle is written to the one vehicle.
  have written := Table.find?_updateWhere board.orders (fun order => orderIds.contains order.id)
    (fun order => order.assigned driver.username vehicle.id) (fun _ => rfl) id
  rw [Board.order, written] at left
  obtain ⟨before, was, rfl⟩ := Option.map_eq_some_iff.mp left
  have own : before.id = id := (Table.find?_eq_some.mp was).2
  rw [goes, if_pos (by simpa [own] using member)]
  rfl

/-- One paper of each type aboard, all counting, is every type there and three that count. -/
theorem oneEachAboard_iff (one : board.OnePaperEach) :
    (∀ type ∈ vehicleDocumentTypes, ∃ paper,
      (board.papersAboard driver).filter (fun paper => paper.documentType = type) = [paper] ∧
        board.counts paper = true) ↔
      board.AllAboard driver ∧
        (board.papersAboard driver).countP board.counts = vehicleDocumentTypes.length := by
  have within : ∀ paper ∈ board.papersAboard driver, paper.documentType ∈ vehicleDocumentTypes :=
    fun paper member => one.vehicleTypes paper (List.mem_filter.mp member).1
  -- With every paper counting, to count those that count is to count them all.
  have counted : board.AllAboard driver →
      (board.papersAboard driver).countP board.counts = (board.papersAboard driver).length :=
    fun all => List.countP_eq_length.mpr fun paper member =>
      (all _ (within paper member)).2 paper member rfl
  constructor
  -- One of each type means three papers, all of which count.
  · intro single
    have all : board.AllAboard driver := by
      intro type listed
      obtain ⟨paper, alone, fine⟩ := single type listed
      have held : paper ∈ (board.papersAboard driver).filter
          (fun paper => paper.documentType = type) := by simp [alone]
      refine ⟨⟨paper, (List.mem_filter.mp held).1, of_decide_eq_true (List.mem_filter.mp held).2⟩,
        fun other aboard own => ?_⟩
      have there : other ∈ (board.papersAboard driver).filter
          (fun paper => paper.documentType = type) :=
        List.mem_filter.mpr ⟨aboard, decide_eq_true own⟩
      rw [alone, List.mem_singleton] at there
      rw [there, fine]
    refine ⟨all, (counted all).trans ?_⟩
    exact (one_each_iff within (by decide) fun type listed => (all type listed).1).mp
      fun type listed => (single type listed).imp fun _ alone => alone.1
  -- Three that count, of three types, leave no room for a second of any.
  · rintro ⟨all, three⟩ type listed
    obtain ⟨paper, alone⟩ := (one_each_iff within (by decide)
      fun type listed => (all type listed).1).mpr ((counted all).symm.trans three) type listed
    have held : paper ∈ (board.papersAboard driver).filter
        (fun paper => paper.documentType = type) := by simp [alone]
    obtain ⟨aboard, own⟩ := List.mem_filter.mp held
    exact ⟨paper, alone, (all type listed).2 paper aboard (of_decide_eq_true own)⟩

/-- Verification is exact for a driver exactly when the papers counted speak for their vehicle. -/
theorem verifiedExactly_iff (one : board.OnePaperEach)
    (found : board.registeredDriver driver.username = some driver) :
    VerifiedExactly cfg board driver ↔ board.PapersAgree driver := by
  have drives : driver.role = .driver :=
    of_decide_eq_true (Option.filter_eq_some_iff.mp found).2
  -- Each of the three answers is the driver's own papers and something about those aboard.
  have listed := usersVerified_iff one drives
  have some_order := @exists_myVerified _ driver one
  have any_order := @forall_myVerified _ driver one
  have single := @oneEachAboard_iff _ driver one
  constructor
  -- Read off the lists for the driver's own papers, which may be in any order.
  · intro exact own
    refine ⟨fun cleared => single.mpr ⟨?_, ?_⟩, fun not_cleared => ⟨?_, fun three => ?_⟩⟩
    · exact (any_order.mp fun rows same => (exact.mine rows same).mpr cleared).2
    · exact (listed.mp (exact.users.mpr cleared)).2
    · by_contra none_missing
      push Not at none_missing
      have found_all : board.SomeAboard driver := by
        intro type ofVehicle
        obtain ⟨paper, aboard, typed, fine⟩ := none_missing type ofVehicle
        exact ⟨paper, aboard, typed, by simpa using fine⟩
      obtain ⟨rows, same, yes⟩ := some_order.mpr ⟨own, found_all⟩
      exact not_cleared ((exact.mine rows same).mp yes)
    · exact not_cleared (exact.users.mp (listed.mpr ⟨own, three⟩))
  -- And from what the papers say each of the three answers follows.
  · intro agree
    have users : usersVerified board driver = some true ↔ board.Cleared driver := by
      rw [listed]
      constructor
      · rintro ⟨own, three⟩
        by_contra not_cleared
        exact ((agree own).2 not_cleared).2 three
      · exact fun cleared => ⟨cleared.1, (single.mp ((agree cleared.1).1 cleared)).2⟩
    refine ⟨fun requester orderIds allowed some_ named holds => ?_,
      fun _ _ _ done _ member _ left => assigned_vehicle found done member left, users,
      fun rows same => ⟨fun yes => ?_, fun cleared => ?_⟩⟩
    · rw [ne_eq, assign_unverified allowed some_ named found holds, Bool.not_eq_false,
        isDriverVerified_eq found, users]
    · obtain ⟨own, found_all⟩ := some_order.mp ⟨rows, same, yes⟩
      by_contra not_cleared
      obtain ⟨⟨type, ofVehicle, none_fine⟩, -⟩ := (agree own).2 not_cleared
      obtain ⟨paper, aboard, typed, fine⟩ := found_all type ofVehicle
      rw [none_fine paper aboard typed] at fine
      cases fine
    · exact any_order.mpr ⟨cleared.1, (single.mp ((agree cleared.1).1 cleared)).1⟩ rows same

/-- A driver with an account of their own. -/
def aDriver : User := { id := 1, username := "driver", role := .driver }

/-- A paper that has been approved, with no date recorded. -/
def approvedPaper {Holder : Type} (holder : Holder) (type : DocumentType) : Document Holder :=
  { holder := holder, documentType := type, status := .approved }

/-- The order waits, and the driver holds some vehicles in service, with these papers among them. -/
def holding (vehicles : List Nat) (papers : List (Document Nat)) (distinct : vehicles.Nodup) :
    Board where
  orders := oneWaiting.orders
  users := ⟨[aDriver], List.nodup_singleton _⟩
  vehicles := ⟨vehicles.map fun id => { id := id, currentDriverId := some 1 }, by
    simpa [List.map_map, Function.comp_def] using distinct⟩
  driverDocuments := driverDocumentTypes.map (approvedPaper "driver")
  vehicleDocuments := papers

/-- One vehicle is registered and nothing more, and the other has the other two papers. -/
def papersApart : Board :=
  holding [1, 2] [approvedPaper 2 .vehicleRegistration, approvedPaper 1 .insuranceCertificate,
    approvedPaper 1 .roadworthinessCertificate] (by decide)

/-- One vehicle, with its three papers. -/
def papersTogether : Board := holding [1] (vehicleDocumentTypes.map (approvedPaper 1)) (by decide)

/-- With its papers on the other vehicle, an uninsured one is cleared to carry the load. -/
theorem uninsured_vehicle_cleared :
    papersApart.OnePaperEach ∧ papersApart.registeredDriver "driver" = some aDriver ∧
      ¬ VerifiedExactly .kigali papersApart aDriver := by
  refine ⟨⟨by decide, by decide, by decide⟩, by decide, fun exact => ?_⟩
  -- Three papers count, but the vehicle the cargo goes on has only one of them.
  obtain ⟨-, vehicle, goes, inOrder⟩ := exact.users.mp (by decide)
  have second : papersApart.vehicleOf 1 = some { id := 2, currentDriverId := some 1 } := by decide
  obtain rfl := Option.some.inj (second.symm.trans goes)
  obtain ⟨paper, listed, own, typed, -⟩ := inOrder .insuranceCertificate (by decide)
  exact (by decide : ∀ paper ∈ papersApart.vehicleDocuments, paper.holder = 2 →
    paper.documentType ≠ .insuranceCertificate) paper listed own typed

/-- With one vehicle and its papers, verification is exact. -/
theorem papers_together_exact : VerifiedExactly .kigali papersTogether aDriver := by
  -- The vehicle and the driver have every paper, and each is approved.
  refine (verifiedExactly_iff ⟨by decide, by decide, by decide⟩ (by decide)).mpr fun _ => ⟨?_, ?_⟩
  · exact fun _ type listed => ⟨approvedPaper 1 type, by revert type; decide, by revert type; decide⟩
  · intro not_cleared
    refine absurd ⟨?_, { id := 1, currentDriverId := some 1 }, by decide, ?_⟩ not_cleared
    · exact fun type listed => ⟨approvedPaper "driver" type, by revert type; decide, rfl, rfl, rfl⟩
    · exact fun type listed => ⟨approvedPaper 1 type, by revert type; decide, rfl, rfl, rfl⟩

end Freight.Dispatch
