import Mathlib.Data.Rat.Floor
import Mathlib.Data.List.Sort
import Freight.Dispatch.Gates

/-! The warning before papers lapse: which drivers are about to drop out of the assignable list. -/

namespace Freight.Documents

open Dispatch

/-- `EXPIRY_WARNING_DAYS`. -/
def expiryWarningDays : Nat := 21

/-- A day, in milliseconds. -/
def day : Nat := 24 * 60 * minute

/-- How many days ahead a request asks about: `req.query.days`, where that is a number within bounds. -/
def warningDays (days : Option ℚ) : Nat :=
  match days with
  | some days => if 0 < days ∧ days ≤ 180 then ⌊days⌋₊ else expiryWarningDays
  | none => expiryWarningDays

/-- A document that has lapsed, or is about to. -/
structure ComplianceIssue where
  holderKind : String
  /-- Nobody, for a vehicle that nobody drives. -/
  holder : Option String
  documentType : DocumentType
  expiresAt : Nat
  expired : Bool
  deriving DecidableEq

/-- What `fleet/compliance` answers. -/
structure ComplianceAnswer where
  warningDays : Nat
  expired : List ComplianceIssue
  expiringSoon : List ComplianceIssue

/-- The date a document is reported with: that of an approved one that lapses within so many days. -/
def lapsing {Holder : Type} (board : Board) (types : List DocumentType) (days : Nat) (paper : Document Holder) :
    Option Nat :=
  paper.expiresAt.filter fun expiry =>
    paper.status = .approved && types.contains paper.documentType && expiry < board.now + days * day

/-- `LEFT JOIN users ON users.id = current_driver_id`. -/
def driversOf (board : Board) (vehicle : FleetVehicle) : List (Option String) :=
  match (board.users.rows.filter fun user => vehicle.currentDriverId = some user.id).map User.username with
  | [] => [none]
  | names => names.map some

/-- The half of the query about drivers. -/
def driverIssues (board : Board) (days : Nat) : List ComplianceIssue :=
  board.driverDocuments.filterMap fun paper =>
    (lapsing board driverDocumentTypes days paper).map fun expiry =>
      { holderKind := "driver", holder := some paper.holder, documentType := paper.documentType
        expiresAt := expiry, expired := expiry ≤ board.now }

/-- The half about vehicles in service. -/
def vehicleIssues (board : Board) (days : Nat) : List ComplianceIssue :=
  board.vehicleDocuments.flatMap fun paper =>
    match lapsing board vehicleDocumentTypes days paper, board.vehicles.find? paper.holder with
    | some expiry, some vehicle =>
      -- A vehicle out of service is nobody's concern here.
      if vehicle.status = "ACTIVE" then
        (driversOf board vehicle).map fun holder =>
          { holderKind := "vehicle", holder := holder, documentType := paper.documentType
            expiresAt := expiry, expired := expiry ≤ board.now }
      else []
    | _, _ => []

/-- `getComplianceIssues` of the verification service: the two halves together, soonest first. -/
def findComplianceIssues (board : Board) (days : Nat) : List ComplianceIssue :=
  (driverIssues board days ++ vehicleIssues board days).insertionSort fun one other =>
    one.expiresAt ≤ other.expiresAt

/-- `getComplianceIssues` of the controller. -/
def getComplianceIssues (board : Board) (days : Option ℚ) : ComplianceAnswer :=
  let issues := findComplianceIssues board (warningDays days)
  { warningDays := expiryWarningDays
    expired := issues.filter fun issue => issue.expired
    expiringSoon := issues.filter fun issue => !issue.expired }

section Lapse

variable {board : Board} {name : String} {later : Nat}

/-- The board as it will be if nothing but time passes. -/
def atTime (board : Board) (later : Nat) : Board := { board with now := later }

/-- Whether a paper counts is a question of its status and its date. -/
theorem counts_iff {Holder : Type} {paper : Document Holder} : board.counts paper = true ↔
    paper.status = .approved ∧ ∀ expiry, paper.expiresAt = some expiry → board.now < expiry := by
  -- A paper without a date never expires.
  unfold Board.counts
  simp only [Bool.and_eq_true, Option.all_eq_true, decide_eq_true_eq]

/-- A paper that counts later counts already. -/
theorem counts_before (after : board.now ≤ later) {Holder : Type} {paper : Document Holder}
    (counts : (atTime board later).counts paper = true) : board.counts paper = true := by
  -- What has not lapsed by then has not lapsed now.
  obtain ⟨approved, ahead⟩ := counts_iff.mp counts
  refine counts_iff.mpr ⟨approved, fun expiry dated => ?_⟩
  have far : later < expiry := ahead expiry dated
  omega

/-- A paper that counts still counts later exactly when it does not lapse before. -/
theorem counts_at_iff {Holder : Type} {paper : Document Holder} (counts : board.counts paper = true) :
    (atTime board later).counts paper = true ↔ ∀ expiry, paper.expiresAt = some expiry → later < expiry :=
  counts_iff.trans ⟨fun still => still.2, fun each => ⟨(counts_iff.mp counts).1, each⟩⟩

/-- Two counts agree, the test of one being the stronger, when it passes wherever the other does. -/
theorem countP_eq_iff {α : Type*} {strong weak : α → Bool} (weaker : ∀ one, strong one = true → weak one = true)
    (rows : List α) : rows.countP strong = rows.countP weak ↔ ∀ row ∈ rows, weak row = true → strong row = true := by
  -- By induction: each row counts in both or in neither, or the counts part for good.
  induction rows with
  | nil => simp
  | cons first rest ih =>
    have fewer : rest.countP strong ≤ rest.countP weak := List.countP_mono_left fun row _ => weaker row
    rw [List.countP_cons, List.countP_cons, List.forall_mem_cons, ← ih]
    by_cases passes : weak first = true
    · by_cases still : strong first = true
      · simp [passes, still]
      · simp only [passes, still, if_true, if_false, Bool.false_eq_true]
        constructor
        · intro same
          omega
        · rintro ⟨all, -⟩
          exact absurd (all trivial) (by simp)
    · have fails : ¬ strong first = true := fun passed => passes (weaker first passed)
      simp [passes, fails]

/-- The date a document is reported with. -/
theorem lapsing_eq_some {Holder : Type} {types : List DocumentType} {days expiry : Nat} {paper : Document Holder} :
    lapsing board types days paper = some expiry ↔ paper.expiresAt = some expiry ∧ paper.status = .approved ∧
      types.contains paper.documentType = true ∧ expiry < board.now + days * day := by
  -- The query asks for an approved paper of a type that matters, with a date before the end of the days.
  unfold lapsing
  rw [Option.filter_eq_some_iff]
  simp only [Bool.and_eq_true, decide_eq_true_eq, and_assoc]

/-- Who drives a vehicle, by name. -/
theorem mem_driversOf {vehicle : FleetVehicle} : some name ∈ driversOf board vehicle ↔
    (board.users.find? name).any fun user => vehicle.currentDriverId = some user.id := by
  have listed : (∃ user ∈ board.users.rows, vehicle.currentDriverId = some user.id ∧ user.username = name) ↔
      ((board.users.find? name).any fun user => vehicle.currentDriverId = some user.id) = true := by
    rw [Option.any_eq_true]
    simp only [Table.find?_eq_some, decide_eq_true_eq]
    constructor
    · rintro ⟨user, there, drives, own⟩
      exact ⟨user, ⟨there, own⟩, drives⟩
    · rintro ⟨user, ⟨there, own⟩, drives⟩
      exact ⟨user, there, drives, own⟩
  rw [← listed]
  unfold driversOf
  -- With nobody joined the row has no name.
  cases joined : (board.users.rows.filter fun user => vehicle.currentDriverId = some user.id).map User.username with
  | nil =>
    have nobody := List.map_eq_nil_iff.mp joined
    simp only [List.mem_singleton, reduceCtorEq, false_iff, not_exists, not_and]
    intro user there drives _
    have member : user ∈ board.users.rows.filter fun user => vehicle.currentDriverId = some user.id :=
      List.mem_filter.mpr ⟨there, decide_eq_true drives⟩
    rw [nobody] at member
    exact absurd member List.not_mem_nil
  | cons first rest =>
    show some name ∈ (first :: rest).map some ↔ _
    rw [← joined]
    simp only [List.mem_map, List.mem_filter, decide_eq_true_eq, Option.some.injEq, exists_eq_right, and_assoc]

/-- A driver's own paper on the list. -/
theorem mem_driverIssues {days : Nat} {issue : ComplianceIssue} : issue ∈ driverIssues board days ↔
    ∃ paper ∈ board.driverDocuments, ∃ expiry, lapsing board driverDocumentTypes days paper = some expiry ∧
      issue = { holderKind := "driver", holder := some paper.holder, documentType := paper.documentType
                expiresAt := expiry, expired := expiry ≤ board.now } := by
  -- One row of the report for one paper.
  unfold driverIssues
  rw [List.mem_filterMap]
  refine exists_congr fun paper => and_congr_right fun _ => ?_
  rw [Option.map_eq_some_iff]
  exact exists_congr fun expiry => and_congr_right fun _ => eq_comm

/-- A vehicle's paper on the list. -/
theorem mem_vehicleIssues {days : Nat} {issue : ComplianceIssue} : issue ∈ vehicleIssues board days ↔
    ∃ paper ∈ board.vehicleDocuments, ∃ expiry vehicle holder,
      lapsing board vehicleDocumentTypes days paper = some expiry ∧
      board.vehicles.find? paper.holder = some vehicle ∧ vehicle.status = "ACTIVE" ∧
      holder ∈ driversOf board vehicle ∧
      issue = { holderKind := "vehicle", holder := holder, documentType := paper.documentType
                expiresAt := expiry, expired := expiry ≤ board.now } := by
  -- One row of the report for one paper and one driver of its vehicle.
  unfold vehicleIssues
  rw [List.mem_flatMap]
  refine exists_congr fun paper => and_congr_right fun _ => ?_
  cases lapsing board vehicleDocumentTypes days paper with
  | none => simp
  | some expiry =>
    cases board.vehicles.find? paper.holder with
    | none => simp
    | some vehicle =>
      by_cases active : vehicle.status = "ACTIVE"
      · simp [active, eq_comm]
      · simp [active]

/-- What is announced: the papers of either half that have not lapsed yet. -/
theorem mem_expiringSoon {days : Option ℚ} {issue : ComplianceIssue} :
    issue ∈ (getComplianceIssues board days).expiringSoon ↔
      (issue ∈ driverIssues board (warningDays days) ∨ issue ∈ vehicleIssues board (warningDays days)) ∧
        issue.expired = false := by
  -- Sorting the report leaves its rows.
  unfold getComplianceIssues findComplianceIssues
  simp only [List.mem_filter, List.mem_insertionSort, List.mem_append, Bool.not_eq_true']

/-- A driver's own papers stay in order exactly as long as none is announced to lapse. -/
theorem own_papers_iff {days : Nat} (soon : later < board.now + days * day) :
    (∀ paper ∈ board.driverDocuments, (paper.holder = name ∧ paper.documentType ∈ driverDocumentTypes) ∧
        board.counts paper = true → (atTime board later).counts paper = true) ↔
      ∀ issue ∈ driverIssues board days, issue.expired = false → issue.holder = some name →
        later < issue.expiresAt := by
  constructor
  · intro each issue listed ahead own
    obtain ⟨paper, there, expiry, reported, rfl⟩ := mem_driverIssues.mp listed
    obtain ⟨dated, approved, typed, -⟩ := lapsing_eq_some.mp reported
    have counts : board.counts paper = true := by
      refine counts_iff.mpr ⟨approved, fun other same => ?_⟩
      obtain rfl := Option.some.inj (dated.symm.trans same)
      simpa using ahead
    exact (counts_at_iff counts).mp
      (each paper there ⟨⟨Option.some.inj own, List.contains_iff_mem.mp typed⟩, counts⟩) expiry dated
  · intro each paper there ⟨⟨own, typed⟩, counts⟩
    refine (counts_at_iff counts).mpr fun expiry dated => ?_
    -- A paper that lapsed by then would be announced now.
    by_contra lapsed
    have reported : lapsing board driverDocumentTypes days paper = some expiry :=
      lapsing_eq_some.mpr ⟨dated, (counts_iff.mp counts).1, List.contains_iff_mem.mpr typed, by omega⟩
    have ahead := (counts_iff.mp counts).2 expiry dated
    exact lapsed (each _ (mem_driverIssues.mpr ⟨paper, there, expiry, reported, rfl⟩) (by simpa using ahead)
      (congrArg some own))

/-- A paper that the gate counts for a driver is one of a vehicle in service that the driver is named for. -/
theorem aboard_iff {paper : Document Nat} :
    ((board.vehicles.find? paper.holder).any fun vehicle =>
      (board.users.find? name).any vehicle.servesAs) = true ↔
    ∃ vehicle, board.vehicles.find? paper.holder = some vehicle ∧ vehicle.status = "ACTIVE" ∧
      some name ∈ driversOf board vehicle := by
  -- Serving as a driver is being one of those the vehicle is listed for.
  rw [Option.any_eq_true]
  refine exists_congr fun vehicle => and_congr_right fun _ => ?_
  rw [mem_driversOf]
  unfold FleetVehicle.servesAs
  cases board.users.find? name with
  | none => simp
  | some user => simp [and_comm]

/-- So do the papers of the vehicles a driver holds. -/
theorem vehicle_papers_iff {days : Nat} (soon : later < board.now + days * day) :
    (∀ paper ∈ board.vehicleDocuments, (paper.documentType ∈ vehicleDocumentTypes ∧ board.counts paper = true) ∧
        ((board.vehicles.find? paper.holder).any fun vehicle =>
          (board.users.find? name).any vehicle.servesAs) = true → (atTime board later).counts paper = true) ↔
      ∀ issue ∈ vehicleIssues board days, issue.expired = false → issue.holder = some name →
        later < issue.expiresAt := by
  constructor
  · intro each issue listed ahead own
    obtain ⟨paper, there, expiry, vehicle, holder, reported, found, active, named, rfl⟩ :=
      mem_vehicleIssues.mp listed
    obtain rfl : holder = some name := own
    obtain ⟨dated, approved, typed, -⟩ := lapsing_eq_some.mp reported
    have counts : board.counts paper = true := by
      refine counts_iff.mpr ⟨approved, fun other same => ?_⟩
      obtain rfl := Option.some.inj (dated.symm.trans same)
      simpa using ahead
    exact (counts_at_iff counts).mp (each paper there
      ⟨⟨List.contains_iff_mem.mp typed, counts⟩, aboard_iff.mpr ⟨vehicle, found, active, named⟩⟩) expiry dated
  · intro each paper there ⟨⟨typed, counts⟩, aboard⟩
    obtain ⟨vehicle, found, active, named⟩ := aboard_iff.mp aboard
    refine (counts_at_iff counts).mpr fun expiry dated => ?_
    -- As with the driver's own.
    by_contra lapsed
    have reported : lapsing board vehicleDocumentTypes days paper = some expiry :=
      lapsing_eq_some.mpr ⟨dated, (counts_iff.mp counts).1, List.contains_iff_mem.mpr typed, by omega⟩
    have ahead := (counts_iff.mp counts).2 expiry dated
    exact lapsed (each _ (mem_vehicleIssues.mpr
      ⟨paper, there, expiry, vehicle, some name, reported, found, active, named, rfl⟩) (by simpa using ahead) rfl)

/-- Whether the gate counts a paper as a driver's own. -/
def countsOwn (board : Board) (name : String) (paper : Document String) : Bool :=
  paper.holder = name && driverDocumentTypes.contains paper.documentType && board.counts paper

/-- Whether the gate counts a paper as one of the driver's vehicle. -/
def countsAboard (board : Board) (name : String) (paper : Document Nat) : Bool :=
  vehicleDocumentTypes.contains paper.documentType && board.counts paper &&
    (board.vehicles.find? paper.holder).any fun vehicle => (board.users.find? name).any vehicle.servesAs

/-- The gate is two counts that are met exactly. -/
theorem isDriverVerified_iff : isDriverVerified board name = true ↔
    board.driverDocuments.countP (countsOwn board name) = driverDocumentTypes.length ∧
      board.vehicleDocuments.countP (countsAboard board name) = vehicleDocumentTypes.length := by
  -- Each count is compared with the number of types.
  unfold isDriverVerified
  simp only [Bool.and_eq_true, decide_eq_true_eq]
  rfl

/-- What is lost of a driver's own papers as time passes was announced. -/
theorem own_count_iff {days : Nat} (after : board.now ≤ later) (soon : later < board.now + days * day) :
    board.driverDocuments.countP (countsOwn (atTime board later) name) =
        board.driverDocuments.countP (countsOwn board name) ↔
      ∀ issue ∈ driverIssues board days, issue.expired = false → issue.holder = some name →
        later < issue.expiresAt := by
  -- A paper that counts then counts now, so the counts agree just where none is lost between.
  rw [countP_eq_iff, ← own_papers_iff soon]
  · simp only [countsOwn, Bool.and_eq_true, decide_eq_true_eq, List.contains_iff_mem]
    exact forall₂_congr fun paper there => ⟨fun each counts => (each counts).2, fun each counts =>
      ⟨counts.1, each counts⟩⟩
  · intro paper passes
    simp only [countsOwn, Bool.and_eq_true] at passes ⊢
    exact ⟨passes.1, counts_before after passes.2⟩

/-- And so was what is lost of the vehicle's. -/
theorem aboard_count_iff {days : Nat} (after : board.now ≤ later) (soon : later < board.now + days * day) :
    board.vehicleDocuments.countP (countsAboard (atTime board later) name) =
        board.vehicleDocuments.countP (countsAboard board name) ↔
      ∀ issue ∈ vehicleIssues board days, issue.expired = false → issue.holder = some name →
        later < issue.expiresAt := by
  -- A paper that counts then counts now, so the counts agree just where none is lost between.
  rw [countP_eq_iff, ← vehicle_papers_iff soon]
  · simp only [countsAboard, Bool.and_eq_true, List.contains_iff_mem]
    exact forall₂_congr fun paper there => ⟨fun each counts => (each counts).1.2, fun each counts =>
      ⟨⟨counts.1.1, each counts⟩, counts.2⟩⟩
  · intro paper passes
    simp only [countsAboard, Bool.and_eq_true] at passes ⊢
    exact ⟨⟨passes.1.1, counts_before after passes.1.2⟩, passes.2⟩

/--
A driver who is verified now stays so, as time passes, exactly until a paper announced under their name lapses:
within the days that are asked about, nobody drops out of the assignable list unannounced.
-/
theorem verified_until_announced (board : Board) (name : String) (later : Nat) (days : Option ℚ)
    (verified : isDriverVerified board name = true) (after : board.now ≤ later)
    (soon : later < board.now + warningDays days * day) :
    isDriverVerified { board with now := later } name = true ↔
      ∀ issue ∈ (getComplianceIssues board days).expiringSoon, issue.holder = some name →
        later < issue.expiresAt := by
  obtain ⟨own, ofVehicles⟩ := isDriverVerified_iff.mp verified
  -- The counts that are met now have to be met later.
  have counts : isDriverVerified (atTime board later) name = true ↔
      board.driverDocuments.countP (countsOwn (atTime board later) name) =
          board.driverDocuments.countP (countsOwn board name) ∧
        board.vehicleDocuments.countP (countsAboard (atTime board later) name) =
          board.vehicleDocuments.countP (countsAboard board name) := by
    rw [isDriverVerified_iff, own, ofVehicles]
    rfl
  rw [show isDriverVerified { board with now := later } name = isDriverVerified (atTime board later) name from rfl,
    counts, own_count_iff after soon, aboard_count_iff after soon]
  simp only [mem_expiringSoon]
  constructor
  · rintro ⟨mine, aboard⟩ issue ⟨listed | listed, ahead⟩ holder
    · exact mine issue listed ahead holder
    · exact aboard issue listed ahead holder
  · intro each
    exact ⟨fun issue listed ahead => each issue ⟨.inl listed, ahead⟩,
      fun issue listed ahead => each issue ⟨.inr listed, ahead⟩⟩

/-- A driver at the wheel of a vehicle whose insurance lapses in ten days. -/
def insuredForTenDays : Board where
  orders := .empty
  users := ⟨[{ id := 1, username := "driver", role := .driver }], by decide⟩
  vehicles := ⟨[{ id := 1, currentDriverId := some 1 }], by decide⟩
  driverDocuments := driverDocumentTypes.map fun type =>
    { holder := "driver", documentType := type, status := .approved }
  vehicleDocuments := vehicleDocumentTypes.map fun type =>
    { holder := 1, documentType := type, status := .approved
      expiresAt := if type = .insuranceCertificate then some (10 * day) else none }

/-- Announced, the driver drops out when the insurance does. -/
theorem verified_until_announced_insurance :
    isDriverVerified { insuredForTenDays with now := 10 * day - 1 } "driver" = true ∧
      ¬ isDriverVerified { insuredForTenDays with now := 10 * day } "driver" = true := by
  -- One paper has a date at all, and it is announced.
  have until_ := fun later => verified_until_announced insuredForTenDays "driver" later none (by decide)
  constructor
  · -- The one paper that is announced lapses a second later.
    refine (until_ (10 * day - 1) (by decide) (by decide)).mpr ?_
    decide
  · intro still
    have announced := (until_ (10 * day) (by decide) (by decide)).mp still
    revert announced
    decide

end Lapse

end Freight.Documents
