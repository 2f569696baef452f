import Freight.Dispatch.Gates
import Freight.Library.Pool

/-! Papers on file: their upload, their review and their analysis, a statement at a time. -/

namespace Freight.Documents

open Dispatch (DocumentType DocumentStatus FleetVehicle driverDocumentTypes vehicleDocumentTypes)

/-- The bytes of an uploaded file. -/
abbrev File := List UInt8

/-- `OPERATOR_DOCUMENT_TYPES`. -/
def operatorDocumentTypes : List DocumentType := [.operatorLicence]

/-- What a type of document is called in the tables, and in the keys of the object store. -/
def typeName : DocumentType → String
  | .nationalId => "national_id"
  | .driversLicense => "drivers_license"
  | .vehicleRegistration => "vehicle_registration"
  | .insuranceCertificate => "insurance_certificate"
  | .roadworthinessCertificate => "roadworthiness_certificate"
  | .operatorLicence => "operator_licence"

/-- `MIN_DOCUMENT_FILE_SIZE_BYTES`. -/
def minDocumentFileSizeBytes : Nat := 10 * 1024

/-- What a file turns out to be. -/
inductive FileType where
  | jpeg
  | png
  | pdf
  deriving DecidableEq

/-- `MAGIC_BYTES`. -/
def magicBytes : FileType → List UInt8
  | .jpeg => [0xff, 0xd8, 0xff]
  | .png => [0x89, 0x50, 0x4e, 0x47, 0x0d, 0x0a, 0x1a, 0x0a]
  | .pdf => [0x25, 0x50, 0x44, 0x46]

/-- `assertRealFileType`: the first of the allowed types whose signature the bytes begin with. -/
def assertRealFileType (file : File) (allowed : List FileType) : Option FileType :=
  allowed.find? fun type => (magicBytes type).isPrefixOf file

/-- The ending that goes with a type. -/
def FileType.extension : FileType → String
  | .png => "png"
  | .pdf => "pdf"
  | .jpeg => "jpg"

/-- Whom a paper is filed under, which tells the table it is in. -/
inductive Holder where
  /-- `driver_documents`, by `username`. -/
  | driver (username : String)
  /-- `vehicle_documents`, by `vehicle_id`. -/
  | vehicle (id : Nat)
  deriving DecidableEq

/-- `holderKind`. -/
inductive HolderKind where
  | driver
  | vehicle
  deriving DecidableEq

/-- The table a holder's papers are in. -/
def Holder.kind : Holder → HolderKind
  | .driver _ => .driver
  | .vehicle _ => .vehicle

/-- What the analysis makes of a file. -/
structure Insights where
  /-- Not stored: the bytes the analysis was given. -/
  ofFile : File
  summary : String
  deriving DecidableEq

/-- A row of `driver_documents` or of `vehicle_documents`. -/
structure Paper where
  /-- The two tables count apart. -/
  id : Nat
  holder : Holder
  documentType : DocumentType
  fileUrl : String
  status : DocumentStatus := .pending
  rejectionReason : Option String := none
  uploadedAt : Nat
  /-- Of a vehicle's paper: whose phone it came from. -/
  uploadedBy : Option String := none
  reviewedBy : Option String := none
  reviewedAt : Option Nat := none
  expiresAt : Option Nat := none
  /-- Null on rows from before hashes were kept. -/
  fileHash : Option String := none
  aiAnalysis : Option Insights := none
  aiAnalyzedAt : Option Nat := none
  deriving DecidableEq

/-- What a holder has at most one paper of: `UNIQUE (username, document_type)`, and the vehicles' own. -/
abbrev Paper.slot (paper : Paper) : Holder × DocumentType := (paper.holder, paper.documentType)

/-- The outside code the controller relies on. -/
structure PaperConfig where
  /-- `createHash('sha256')`, in hex. -/
  sha256 : File → String
  /-- Whether the object store is configured. -/
  storageConfigured : Bool

/-- The two tables, their serials, the object store, and who drives what. -/
structure Archive where
  papers : Table Paper Paper.slot
  nextId : HolderKind → Nat
  objects : String → Option File
  /-- `users.id`, by username. -/
  userId : String → Option Nat
  fleet : List FleetVehicle

/-- `resolveTarget`: where a document goes. A vehicle's goes nowhere while the driver has none in service. -/
def Archive.resolveTarget (archive : Archive) (username : String) (type : DocumentType) : Option Holder :=
  if vehicleDocumentTypes.contains type then
    (archive.userId username).bind fun driver =>
      ((archive.fleet.filter fun vehicle =>
        vehicle.currentDriverId = some driver && vehicle.status = "ACTIVE").map FleetVehicle.id).min?.map .vehicle
  else some (.driver username)

/-- What the foreign key of each table asks of a new row: the driver, or the vehicle, is there. -/
def Archive.registered (archive : Archive) : Holder → Bool
  | .driver username => (archive.userId username).isSome
  | .vehicle id => archive.fleet.any fun vehicle => vehicle.id = id

/-- Submitted or approved: what the search for identical files looks at. -/
def Paper.live (paper : Paper) : Bool := paper.status = .pending || paper.status = .approved

/-- Whether the same bytes are on file for a holder under another type. -/
def Archive.duplicated (archive : Archive) (holder : Holder) (type : DocumentType) (hash : String) : Bool :=
  archive.papers.rows.any fun paper =>
    paper.holder = holder && paper.documentType ≠ type && paper.fileHash = some hash && paper.live

/-- An upload that has passed the checks on the request alone. -/
structure Upload where
  username : String
  documentType : DocumentType
  file : File
  deriving DecidableEq

/-- The key `uploadDriverDocument` stores a file under: the uploader's, whoever the paper is filed under. -/
def Upload.fileKey (upload : Upload) (type : FileType) : String :=
  "driver-documents/" ++ upload.username ++ "/" ++ typeName upload.documentType ++ "." ++ type.extension

/-- What `analyzeAndStoreDocumentInsights` is handed. -/
structure AnalysisJob where
  kind : HolderKind
  documentId : Nat
  file : File
  uploadedAt : Nat
  deriving DecidableEq

/-- A decision on a document, once the request is found in order. -/
structure Review where
  id : Nat
  kind : HolderKind
  approves : Bool
  rejectionReason : Option String
  reviewer : String
  expiry : Option Nat
  deriving DecidableEq

/-- Why a request ends without effect. -/
inductive PaperRefusal where
  | invalidType
  | fileRequired
  | fileTooSmall
  | noVehicle
  | notReopened
  | duplicateFile
  | invalidFileType
  | uploadFailed
  | statusInvalid
  | holderKindInvalid
  | expiryInvalid
  | expiryPast
  | notFound
  | statusUpdateFailed
  deriving DecidableEq

/-- A call in flight, at the await it has reached. -/
inductive PaperCall where
  /-- `uploadDocument`, about to look up where the document goes. -/
  | resolving (upload : Upload)
  | checkingStatus (upload : Upload) (holder : Holder)
  | checkingDuplicates (upload : Upload) (holder : Holder)
  | storing (upload : Upload) (holder : Holder)
  | filing (upload : Upload) (holder : Holder) (fileKey : String)
  | auditing (job : AnalysisJob)
  /-- `analyzeAndStoreDocumentInsights`, reading the driver's name. -/
  | naming (job : AnalysisJob)
  /-- Waiting for the model. -/
  | analysing (job : AnalysisJob)
  | storingInsights (job : AnalysisJob) (insights : Insights)
  /-- `updateDocumentStatus`, about to write the decision. -/
  | deciding (review : Review)
  /-- Answered with this refusal, or with success. -/
  | finished (refusal : Option PaperRefusal)
  /-- Its process stopped. -/
  | stopped
  deriving DecidableEq

/-- What is asked for. -/
inductive PaperEntry where
  /-- `POST /api/driver-documents`, by a driver; no type stands for one that is not accepted. -/
  | uploadDocument (username : String) (documentType : Option DocumentType) (file : Option File)
  /-- `PATCH /api/driver-documents/:id/status`; a missing part stands for one that is not allowed. -/
  | updateDocumentStatus (id : Nat) (status : Option DocumentStatus) (rejectionReason : Option String)
      /- No date, or one that may not parse. -/
      (expiresAt : Option (Option Nat)) (holderKind : Option HolderKind) (reviewer : String) (now : Nat)

/-- The answer to an await. -/
structure PaperAnswer where
  fails : Bool := false
  /-- `NOW()`. -/
  now : Nat := 0
  /-- What the model says of the document, if anything. -/
  summary : Option String := none

/-- Where a call begins: the checks on the request alone. -/
def PaperEntry.start : PaperEntry → PaperCall
  | .uploadDocument username documentType file =>
    match documentType, file with
    | none, _ => .finished (some .invalidType)
    | some _, none => .finished (some .fileRequired)
    | some type, some bytes =>
      if bytes.length < minDocumentFileSizeBytes then .finished (some .fileTooSmall)
      else .resolving { username := username, documentType := type, file := bytes }
  | .updateDocumentStatus id status rejectionReason expiresAt holderKind reviewer now =>
    match status, holderKind with
    | none, _ | some .pending, _ => .finished (some .statusInvalid)
    | some _, none => .finished (some .holderKindInvalid)
    | some .rejected, some kind =>
      -- Rejecting clears the expiry with the approval.
      .deciding {
        id, kind, approves := false, rejectionReason := rejectionReason.filter (· ≠ ""), reviewer, expiry := none }
    | some .approved, some kind =>
      let approval (expiry : Option Nat) : PaperCall :=
        .deciding { id, kind, approves := true, rejectionReason := none, reviewer, expiry }
      match expiresAt with
      | none => approval none
      | some none => .finished (some .expiryInvalid)
      | some (some date) => if date ≤ now then .finished (some .expiryPast) else approval (some date)

/-- The types a review may touch in each table. -/
def reviewableTypes : HolderKind → List DocumentType
  | .vehicle => vehicleDocumentTypes
  | .driver => driverDocumentTypes ++ operatorDocumentTypes

/-- The rows a review is about. -/
def Review.selects (review : Review) (paper : Paper) : Bool :=
  paper.holder.kind = review.kind && paper.id = review.id &&
    (reviewableTypes review.kind).contains paper.documentType

/-- What a review writes. -/
def Paper.reviewed (paper : Paper) (review : Review) (now : Nat) : Paper :=
  { paper with
    status := if review.approves then .approved else .rejected
    rejectionReason := if review.approves then none else review.rejectionReason
    reviewedBy := some review.reviewer
    reviewedAt := some now
    expiresAt := review.expiry }

/-- The row of an upload, under a fresh id. -/
def Upload.paper (cfg : PaperConfig) (upload : Upload) (holder : Holder) (fileKey : String) (id now : Nat) : Paper where
  id := id
  holder := holder
  documentType := upload.documentType
  fileUrl := fileKey
  uploadedAt := now
  -- Only the table of vehicle papers has a column for it.
  uploadedBy := if holder.kind = .vehicle then some upload.username else none
  fileHash := some (cfg.sha256 upload.file)

/-- What an upload makes of the paper it replaces: the id stays, and the last review goes. -/
def Paper.replaced (paper : Paper) (cfg : PaperConfig) (upload : Upload) (fileKey : String) (now : Nat) : Paper :=
  { paper with
    fileUrl := fileKey
    -- Whatever was decided about the old file is void.
    status := .pending
    rejectionReason := none
    reviewedBy := none
    reviewedAt := none
    uploadedAt := now
    uploadedBy := if paper.holder.kind = .vehicle then some upload.username else paper.uploadedBy
    fileHash := some (cfg.sha256 upload.file)
    expiresAt := none
    aiAnalysis := none
    aiAnalyzedAt := none }

/-- The row an analysis is meant for, as it was uploaded. -/
def AnalysisJob.selects (job : AnalysisJob) (paper : Paper) : Bool :=
  paper.holder.kind = job.kind && paper.id = job.documentId && paper.uploadedAt = job.uploadedAt

/-- What the analysis writes. -/
def Paper.analysed (paper : Paper) (insights : Insights) (now : Nat) : Paper :=
  { paper with aiAnalysis := some insights, aiAnalyzedAt := some now }

/-- What a step of a call does. -/
inductive PaperStatement where
  | nothing
  /-- `PutObject`. -/
  | put (fileKey : String) (file : File)
  /-- `INSERT … ON CONFLICT DO UPDATE`. -/
  | filed (upload : Upload) (holder : Holder) (fileKey : String) (now : Nat)
  | reviewed (review : Review) (now : Nat)
  | analysed (job : AnalysisJob) (insights : Insights) (now : Nat)

/-- The key is that of the row replaced. -/
theorem replaced_slot (cfg : PaperConfig) (upload : Upload) (fileKey : String) (now : Nat) (paper : Paper) :
    (paper.replaced cfg upload fileKey now).slot = paper.slot := rfl

/-- A review leaves a row its key. -/
theorem reviewed_slot (review : Review) (now : Nat) (paper : Paper) :
    (paper.reviewed review now).slot = paper.slot := rfl

/-- So does an analysis. -/
theorem analysed_slot (insights : Insights) (now : Nat) (paper : Paper) :
    (paper.analysed insights now).slot = paper.slot := rfl

/-- A statement, and what it makes of the archive. -/
def PaperStatement.execute (cfg : PaperConfig) (statement : PaperStatement) (archive : Archive) : Archive :=
  match statement with
  | .nothing => archive
  | .put fileKey file =>
    { archive with objects := fun key => if key = fileKey then some file else archive.objects key }
  | .filed upload holder fileKey now =>
    { archive with
      papers := archive.papers.upsert (upload.paper cfg holder fileKey (archive.nextId holder.kind) now)
        (fun paper => paper.replaced cfg upload fileKey now) (replaced_slot cfg upload fileKey now)
      -- The serial is drawn whether or not a row is added.
      nextId := fun kind => if kind = holder.kind then archive.nextId kind + 1 else archive.nextId kind }
  | .reviewed review now =>
    { archive with
      papers := archive.papers.updateWhere review.selects (fun paper => paper.reviewed review now)
        (reviewed_slot review now) }
  | .analysed job insights now =>
    { archive with
      papers := archive.papers.updateWhere job.selects (fun paper => paper.analysed insights now)
        (analysed_slot insights now) }

/-- What a call does next, and the await it gets to. -/
def PaperCall.next (cfg : PaperConfig) (archive : Archive) (answer : PaperAnswer) :
    PaperCall → PaperStatement × PaperCall
  | .resolving upload =>
    if answer.fails then (.nothing, .finished (some .uploadFailed))
    else match archive.resolveTarget upload.username upload.documentType with
      | none => (.nothing, .finished (some .noVehicle))
      | some holder => (.nothing, .checkingStatus upload holder)
  | .checkingStatus upload holder =>
    if answer.fails then (.nothing, .finished (some .uploadFailed))
    else if (archive.papers.find? (holder, upload.documentType)).any Paper.live then
      (.nothing, .finished (some .notReopened))
    else (.nothing, .checkingDuplicates upload holder)
  | .checkingDuplicates upload holder =>
    if answer.fails then (.nothing, .finished (some .uploadFailed))
    else if archive.duplicated holder upload.documentType (cfg.sha256 upload.file) then
      (.nothing, .finished (some .duplicateFile))
    else (.nothing, .storing upload holder)
  | .storing upload holder =>
    if !cfg.storageConfigured then (.nothing, .finished (some .uploadFailed))
    else match assertRealFileType upload.file [.jpeg, .png, .pdf] with
      | none => (.nothing, .finished (some .invalidFileType))
      | some type =>
        if answer.fails then (.nothing, .finished (some .uploadFailed))
        else (.put (upload.fileKey type) upload.file, .filing upload holder (upload.fileKey type))
  | .filing upload holder fileKey =>
    if answer.fails || !archive.registered holder then (.nothing, .finished (some .uploadFailed))
    else
      let id := ((archive.papers.find? (holder, upload.documentType)).map Paper.id).getD
        (archive.nextId holder.kind)
      (.filed upload holder fileKey answer.now,
        .auditing { kind := holder.kind, documentId := id, file := upload.file, uploadedAt := answer.now })
  -- The audit log swallows its own errors.
  | .auditing job => (.nothing, .naming job)
  | .naming job => if answer.fails then (.nothing, .finished none) else (.nothing, .analysing job)
  | .analysing job =>
    match answer.summary with
    | none => (.nothing, .finished none)
    | some summary => (.nothing, .storingInsights job { ofFile := job.file, summary := summary })
  | .storingInsights job insights =>
    if answer.fails then (.nothing, .finished none) else (.analysed job insights answer.now, .finished none)
  | .deciding review =>
    if answer.fails then (.nothing, .finished (some .statusUpdateFailed))
    else if archive.papers.rows.any review.selects then (.reviewed review answer.now, .finished none)
    else (.nothing, .finished (some .notFound))
  | .finished refusal => (.nothing, .finished refusal)
  | .stopped => (.nothing, .stopped)

/-- The analysis a call is on its way to. -/
def PaperCall.job : PaperCall → Option AnalysisJob
  | .auditing job | .naming job | .analysing job | .storingInsights job _ => some job
  | _ => none

/-- The upload a call is past the status check with, and whom it goes to. -/
def PaperCall.underWay : PaperCall → Option (Upload × Holder)
  | .checkingDuplicates upload holder | .storing upload holder | .filing upload holder _ => some (upload, holder)
  | _ => none

/-- What one step of a call can be, to a reader of the archive. -/
inductive PaperMove (cfg : PaperConfig) (archive : Archive) (now : Nat) : PaperCall → PaperStatement × PaperCall → Prop
  /-- Nothing is written, and no analysis begins. -/
  | quiet {call next} (job : next.job = none ∨ next.job = call.job)
      (underWay : next.underWay = none) (unchecked : ∀ upload holder, next ≠ .checkingStatus upload holder)
      (insights : ∀ job insights, next = .storingInsights job insights → call ≠ next → insights.ofFile = job.file) :
      PaperMove cfg archive now call (.nothing, next)
  | resolved {upload holder} (resolves : archive.resolveTarget upload.username upload.documentType = some holder) :
      PaperMove cfg archive now (.resolving upload) (.nothing, .checkingStatus upload holder)
  | reopened {upload holder} (vacant : ¬ (archive.papers.find? (holder, upload.documentType)).any Paper.live) :
      PaperMove cfg archive now (.checkingStatus upload holder) (.nothing, .checkingDuplicates upload holder)
  | alone {upload holder}
      (single : archive.duplicated holder upload.documentType (cfg.sha256 upload.file) = false) :
      PaperMove cfg archive now (.checkingDuplicates upload holder) (.nothing, .storing upload holder)
  | stored {upload holder} (type : FileType) :
      PaperMove cfg archive now (.storing upload holder)
        (.put (upload.fileKey type) upload.file, .filing upload holder (upload.fileKey type))
  | filed {upload holder fileKey} (there : archive.registered holder) :
      PaperMove cfg archive now (.filing upload holder fileKey)
        (.filed upload holder fileKey now, .auditing {
          kind := holder.kind
          documentId := ((archive.papers.find? (holder, upload.documentType)).map Paper.id).getD
            (archive.nextId holder.kind)
          file := upload.file
          uploadedAt := now })
  | reviewed {review} : PaperMove cfg archive now (.deciding review) (.reviewed review now, .finished none)
  | analysed {job insights} :
      PaperMove cfg archive now (.storingInsights job insights) (.analysed job insights now, .finished none)

/-- Every step of a call is one of those. -/
theorem next_move (cfg : PaperConfig) (archive : Archive) (answer : PaperAnswer) (call : PaperCall) :
    PaperMove cfg archive answer.now call (call.next cfg archive answer) := by
  -- Whoever is refused, or is let go, leaves no work behind.
  have ends (call : PaperCall) (refusal : Option PaperRefusal) :
      PaperMove cfg archive answer.now call (.nothing, .finished refusal) :=
    .quiet (.inl rfl) rfl nofun nofun
  cases call with
  | resolving upload =>
    simp only [PaperCall.next]
    split
    · exact ends _ _
    · cases target : archive.resolveTarget upload.username upload.documentType with
      | none => exact ends _ _
      | some holder => exact .resolved target
  | checkingStatus upload holder =>
    simp only [PaperCall.next]
    split
    · exact ends _ _
    · split
      · exact ends _ _
      · rename_i vacant
        exact .reopened vacant
  | checkingDuplicates upload holder =>
    simp only [PaperCall.next]
    split
    · exact ends _ _
    · split
      · exact ends _ _
      · rename_i single
        exact .alone (Bool.eq_false_iff.mpr single)
  | storing upload holder =>
    simp only [PaperCall.next]
    split
    · exact ends _ _
    · cases assertRealFileType upload.file [.jpeg, .png, .pdf] with
      | none => exact ends _ _
      | some type =>
        show PaperMove cfg archive answer.now _ (ite _ _ _)
        split
        · exact ends _ _
        · exact .stored type
  | filing upload holder fileKey =>
    simp only [PaperCall.next]
    split
    · exact ends _ _
    · rename_i there
      simp only [Bool.or_eq_true, not_or, Bool.not_eq_true', Bool.not_eq_false] at there
      exact .filed there.2
  | auditing job => exact .quiet (.inr rfl) rfl (fun _ _ same => by cases same) (fun _ _ same => by cases same)
  | naming job =>
    simp only [PaperCall.next]
    split
    · exact ends _ _
    · exact .quiet (.inr rfl) rfl (fun _ _ same => by cases same) (fun _ _ same => by cases same)
  | analysing job =>
    simp only [PaperCall.next]
    cases answer.summary with
    | none => exact ends _ _
    | some summary =>
      -- What comes of the model is of the file it was given.
      refine .quiet (.inr rfl) rfl (fun _ _ same => by cases same) ?_
      rintro _ _ ⟨⟩ _
      rfl
  | storingInsights job insights =>
    simp only [PaperCall.next]
    split
    · exact ends _ _
    · exact .analysed
  | deciding review =>
    simp only [PaperCall.next]
    split
    · exact ends _ _
    · split
      · exact .reviewed
      · exact ends _ _
  | finished refusal => exact ends _ _
  | stopped => exact .quiet (.inl rfl) rfl (fun _ _ same => by cases same) (fun _ _ same => by cases same)

/-- A new call has no analysis, and is past no check. -/
theorem start_idle (entry : PaperEntry) :
    entry.start.job = none ∧ entry.start.underWay = none ∧
      ∀ upload holder, entry.start ≠ .checkingStatus upload holder := by
  -- A call begins by refusing its input or by looking its holder up.
  cases entry with
  | uploadDocument username documentType file =>
    simp only [PaperEntry.start]
    split
    · exact ⟨rfl, rfl, nofun⟩
    · exact ⟨rfl, rfl, nofun⟩
    · split <;> exact ⟨rfl, rfl, nofun⟩
  | updateDocumentStatus id status rejectionReason expiresAt holderKind reviewer now =>
    simp only [PaperEntry.start]
    split
    · exact ⟨rfl, rfl, nofun⟩
    · exact ⟨rfl, rfl, nofun⟩
    · exact ⟨rfl, rfl, nofun⟩
    · exact ⟨rfl, rfl, nofun⟩
    · split
      · exact ⟨rfl, rfl, nofun⟩
      · exact ⟨rfl, rfl, nofun⟩
      · split <;> exact ⟨rfl, rfl, nofun⟩

/-- What happens outside the calls. -/
inductive OfficeEvent where
  /-- Drivers and vehicles are added, taken out of service or paired anew. -/
  | paired (userId : String → Option Nat) (fleet : List FleetVehicle)
  /-- A vehicle is deleted, and its papers with it. -/
  | vehicleDeleted (id : Nat)

/-- A table without some of its rows. -/
def Archive.without (archive : Archive) (holder : Holder) : Table Paper Paper.slot where
  rows := archive.papers.rows.filter fun paper => paper.holder ≠ holder
  unique := archive.papers.unique.sublist (List.filter_sublist.map _)

/-- What such an event makes of the archive. -/
def OfficeEvent.happen (event : OfficeEvent) (archive : Archive) : Archive :=
  match event with
  | .paired userId fleet => { archive with userId := userId, fleet := fleet }
  | .vehicleDeleted id =>
    { archive with
      papers := archive.without (.vehicle id)
      fleet := archive.fleet.filter fun vehicle => vehicle.id ≠ id }

/-- Papers of one slot are one holder's. -/
theorem holder_of_slot {one other : Paper} (same : one.slot = other.slot) : one.holder = other.holder :=
  congrArg Prod.fst same

/-- A paper of a slot is its holder's. -/
theorem holder_of_key {paper : Paper} {holder : Holder} {type : DocumentType} (own : paper.slot = (holder, type)) :
    paper.holder = holder :=
  congrArg Prod.fst own

/-- The rows after a filing: those of other slots, and the new or the renewed one. -/
theorem mem_filed {cfg : PaperConfig} {archive : Archive} {upload : Upload} {holder : Holder} {fileKey : String}
    {now : Nat} {paper : Paper}
    (member : paper ∈ ((PaperStatement.filed upload holder fileKey now).execute cfg archive).papers.rows) :
    (paper ∈ archive.papers.rows ∧ paper.slot ≠ (holder, upload.documentType)) ∨
      (∃ old, archive.papers.find? (holder, upload.documentType) = some old ∧
        paper = old.replaced cfg upload fileKey now) ∨
      (archive.papers.find? (holder, upload.documentType) = none ∧
        paper = upload.paper cfg holder fileKey (archive.nextId holder.kind) now) := by
  let after := ((PaperStatement.filed upload holder fileKey now).execute cfg archive).papers
  -- A member is what is found under its own key.
  have found : after.find? paper.slot = some paper := Table.find?_eq_some.mpr ⟨member, rfl⟩
  rw [show after = archive.papers.upsert _ _ _ from rfl, Table.find?_upsert,
    show (upload.paper cfg holder fileKey _ now).slot = (holder, upload.documentType) from rfl] at found
  by_cases own : paper.slot = (holder, upload.documentType)
  · rw [own] at found
    rw [if_pos rfl] at found
    cases before : archive.papers.find? (holder, upload.documentType) with
    | none =>
      rw [before] at found
      exact .inr (.inr ⟨rfl, (Option.some.inj found).symm⟩)
    | some old =>
      rw [before] at found
      exact .inr (.inl ⟨old, rfl, (Option.some.inj found).symm⟩)
  · rw [if_neg own] at found
    exact .inl ⟨(Table.find?_eq_some.mp found).1, own⟩

/-- The rows after an update: those left alone, and those changed. -/
theorem mem_updated {archive : Archive} {chosen : Paper → Bool} {change : Paper → Paper}
    (keeps : ∀ paper, (change paper).slot = paper.slot) {paper : Paper}
    (member : paper ∈ (archive.papers.updateWhere chosen change keeps).rows) :
    ∃ old ∈ archive.papers.rows, (chosen old = true ∧ paper = change old) ∨ paper = old := by
  -- A row is changed where it was chosen, and kept where it was not.
  obtain ⟨old, listed, rfl⟩ := List.mem_map.mp member
  refine ⟨old, listed, ?_⟩
  by_cases one : chosen old = true
  · exact .inl ⟨one, if_pos one⟩
  · exact .inr (if_neg one)

/-- The papers that are left behind a deleted vehicle were there before. -/
theorem happen_rows (event : OfficeEvent) (archive : Archive) :
    (event.happen archive).nextId = archive.nextId ∧
      (event.happen archive).objects = archive.objects ∧
      ∀ paper ∈ (event.happen archive).papers.rows, paper ∈ archive.papers.rows := by
  -- Pairing writes no paper, and a deletion only takes some away.
  cases event with
  | paired userId fleet => exact ⟨rfl, rfl, fun _ member => member⟩
  | vehicleDeleted id => exact ⟨rfl, rfl, fun _ member => (List.mem_filter.mp member).1⟩

/-- All uploads, reviews and analyses, interleaved at their awaits. -/
def paperSystem (cfg : PaperConfig) :
    CallSystem Archive PaperStatement PaperEntry PaperCall PaperAnswer OfficeEvent Unit where
  start := PaperEntry.start
  next := PaperCall.next cfg
  execute := PaperStatement.execute cfg
  holds _ := []
  needs _ := []
  outside := OfficeEvent.happen
  outsideNeeds _ := []
  stopped := .stopped

/-- Where the system begins a call. -/
@[simp] theorem system_start (cfg : PaperConfig) (entry : PaperEntry) : (paperSystem cfg).start entry = entry.start :=
  rfl

end Freight.Documents
