import Freight.Documents.Papers

/-! Whether what the analysis says of a paper is about the file that is there. -/

namespace Freight.Documents

open Dispatch (DocumentType)

/-- What is said of each paper was said of the file whose hash it carries. -/
def InsightsOwn (cfg : PaperConfig) (archive : Archive) : Prop :=
  ∀ paper ∈ archive.papers.rows, ∀ insights ∈ paper.aiAnalysis,
    paper.fileHash = some (cfg.sha256 insights.ofFile)

/-- Each table counts its own rows: no two under one id, and every id is behind the serial. -/
structure Numbered (archive : Archive) : Prop where
  distinct : ∀ one ∈ archive.papers.rows, ∀ other ∈ archive.papers.rows,
    one.holder.kind = other.holder.kind → one.id = other.id → one = other
  behind : ∀ paper ∈ archive.papers.rows, paper.id < archive.nextId paper.holder.kind

/-- A paper that is filed again is filed later than it was before. -/
def FiledLater (pool : Pool Archive PaperCall) : PoolEvent PaperEntry PaperAnswer OfficeEvent → Prop
  | .run index answer => ∀ call ∈ pool.calls[index]?, ∀ upload holder fileKey,
    call = .filing upload holder fileKey →
      ∀ paper ∈ pool.shared.papers.find? (holder, upload.documentType), paper.uploadedAt < answer.now
  | _ => True

/-- What a job may find: a row filed later than its file was, or the row of that very file. -/
structure AnalysisJob.Tracks (cfg : PaperConfig) (archive : Archive) (job : AnalysisJob) : Prop where
  behind : job.documentId < archive.nextId job.kind
  upToDate : ∀ paper ∈ archive.papers.rows, paper.holder.kind = job.kind → paper.id = job.documentId →
    job.uploadedAt < paper.uploadedAt ∨
      job.uploadedAt = paper.uploadedAt ∧ paper.fileHash = some (cfg.sha256 job.file)

/-- A call that has an answer from the model has it about its own file. -/
def PaperCall.Faithful (call : PaperCall) : Prop :=
  ∀ job insights, call = .storingInsights job insights → insights.ofFile = job.file

/-- What every interleaving keeps. -/
structure Attributed (cfg : PaperConfig) (archive : Archive) (calls : List PaperCall) : Prop where
  own : InsightsOwn cfg archive
  numbered : Numbered archive
  tracks : ∀ call ∈ calls, ∀ job ∈ call.job, job.Tracks cfg archive
  faithful : ∀ call ∈ calls, call.Faithful

section Statements

variable {cfg : PaperConfig} {archive : Archive} {upload : Upload} {holder : Holder} {fileKey : String} {now : Nat}

/-- A filing leaves each table counting its own rows. -/
theorem numbered_filed (numbered : Numbered archive) :
    Numbered ((PaperStatement.filed upload holder fileKey now).execute cfg archive) := by
  -- A renewed row keeps its id, and a new one takes the serial.
  have origin : ∀ paper ∈ ((PaperStatement.filed upload holder fileKey now).execute cfg archive).papers.rows,
      (∃ old ∈ archive.papers.rows, old.slot = paper.slot ∧ old.id = paper.id) ∨
        paper.slot = (holder, upload.documentType) ∧ paper.id = archive.nextId holder.kind := by
    intro paper member
    rcases mem_filed member with ⟨old, -⟩ | ⟨old, found, rfl⟩ | ⟨-, rfl⟩
    · exact .inl ⟨paper, old, rfl, rfl⟩
    · exact .inl ⟨old, (Table.find?_eq_some.mp found).1, rfl, rfl⟩
    · exact .inr ⟨rfl, rfl⟩
  refine ⟨fun one first other second kind id => ?_, fun paper member => ?_⟩
  -- Two rows of one kind and number are one: both old, one new, or both new.
  · apply Table.same_row _ first second
    rcases origin one first with ⟨before, old, slot, same⟩ | ⟨slot, new⟩ <;>
      rcases origin other second with ⟨before', old', slot', same'⟩ | ⟨slot', new'⟩
    · have kinds : before.holder.kind = before'.holder.kind := by
        rw [holder_of_slot slot, holder_of_slot slot', kind]
      rw [← slot, ← slot', numbered.distinct before old before' old' kinds (by omega)]
    · have below := numbered.behind before old
      have kinds : before.holder.kind = holder.kind := by
        rw [holder_of_slot slot, kind, holder_of_key slot']
      rw [kinds] at below
      omega
    · have below := numbered.behind before' old'
      have kinds : before'.holder.kind = holder.kind := by
        rw [holder_of_slot slot', ← kind, holder_of_key slot]
      rw [kinds] at below
      omega
    · rw [slot, slot']
  -- The counter of the kind that was filed is one on, and the new row is below it.
  · show paper.id < if paper.holder.kind = holder.kind then _ else _
    rcases origin paper member with ⟨before, old, slot, same⟩ | ⟨slot, new⟩
    · have below := numbered.behind before old
      rw [holder_of_slot slot, same] at below
      split <;> omega
    · rw [if_pos (by rw [holder_of_key slot]), holder_of_key slot, new]
      exact Nat.lt_succ_self _

/-- What is said of a paper stays about its file: a filing leaves nothing said. -/
theorem own_filed (own : InsightsOwn cfg archive) :
    InsightsOwn cfg ((PaperStatement.filed upload holder fileKey now).execute cfg archive) := by
  -- A row that is filed or refiled has nothing said of it.
  intro paper member insights said
  rcases mem_filed member with ⟨old, -⟩ | ⟨_, _, rfl⟩ | ⟨_, rfl⟩
  · exact own paper old insights said
  · cases said
  · cases said

/-- A job follows its row through a filing that is later than the row. -/
theorem AnalysisJob.Tracks.filed {job : AnalysisJob} (tracks : job.Tracks cfg archive)
    (later : ∀ paper ∈ archive.papers.find? (holder, upload.documentType), paper.uploadedAt < now) :
    job.Tracks cfg ((PaperStatement.filed upload holder fileKey now).execute cfg archive) := by
  refine ⟨?_, fun paper member kind id => ?_⟩
  · have below := tracks.behind
    show job.documentId < if job.kind = holder.kind then _ else _
    split <;> omega
  · rcases mem_filed member with ⟨old, -⟩ | ⟨old, found, rfl⟩ | ⟨_, rfl⟩
    · exact tracks.upToDate paper old kind id
    · -- The row was filed no earlier than the job's file, and is now filed later.
      have before := later old found
      rcases tracks.upToDate old (Table.find?_eq_some.mp found).1 kind id with earlier | ⟨same, -⟩
      · exact .inl (Nat.lt_trans earlier before)
      · exact .inl (by rw [same]; exact before)
    · -- No job is about a row under the next serial.
      have below := tracks.behind
      rw [← kind, ← id] at below
      exact absurd below (Nat.lt_irrefl _)

/-- The job that comes of a filing is about the row that was filed. -/
theorem tracks_own (numbered : Numbered archive) :
    AnalysisJob.Tracks cfg ((PaperStatement.filed upload holder fileKey now).execute cfg archive) {
      kind := holder.kind
      documentId := ((archive.papers.find? (holder, upload.documentType)).map Paper.id).getD
        (archive.nextId holder.kind)
      file := upload.file
      uploadedAt := now } := by
  refine ⟨?_, fun paper member kind id => ?_⟩
  · show _ < if holder.kind = holder.kind then _ else _
    rw [if_pos rfl]
    cases found : archive.papers.find? (holder, upload.documentType) with
    -- A first filing takes the next serial.
    | none => exact Nat.lt_succ_self _
    -- A renewal keeps the serial that the row had.
    | some old =>
      obtain ⟨member, slot⟩ := Table.find?_eq_some.mp found
      have below := numbered.behind old member
      rw [holder_of_key slot] at below
      exact Nat.lt_succ_of_lt below
  · rcases mem_filed member with ⟨old, elsewhere⟩ | ⟨_, _, rfl⟩ | ⟨_, rfl⟩
    · -- A row of another slot has another id.
      exfalso
      cases found : archive.papers.find? (holder, upload.documentType) with
      | none =>
        have below := numbered.behind paper old
        rw [show paper.holder.kind = holder.kind from kind] at below
        rw [found] at id
        exact Nat.lt_irrefl _ (lt_of_eq_of_lt id.symm below)
      | some own =>
        obtain ⟨listed, slot⟩ := Table.find?_eq_some.mp found
        rw [found] at id
        have kinds : paper.holder.kind = own.holder.kind := by
          rw [show paper.holder.kind = holder.kind from kind, holder_of_key slot]
        exact elsewhere (by rw [numbered.distinct paper old own listed kinds id, slot])
    · exact .inr ⟨rfl, rfl⟩
    · exact .inr ⟨rfl, rfl⟩

end Statements

section Columns

variable {cfg : PaperConfig} {archive : Archive} {chosen : Paper → Bool} {change : Paper → Paper}
  (keeps : ∀ paper, (change paper).slot = paper.slot)

/-- An update that leaves ids alone leaves each table counting its own rows. -/
theorem numbered_updated (numbered : Numbered archive) (same : ∀ paper, (change paper).id = paper.id) :
    Numbered { archive with papers := archive.papers.updateWhere chosen change keeps } := by
  -- Slots and ids are what they were, row by row.
  have origin : ∀ paper ∈ (archive.papers.updateWhere chosen change keeps).rows,
      ∃ old ∈ archive.papers.rows, old.slot = paper.slot ∧ old.id = paper.id := by
    intro paper member
    obtain ⟨old, listed, ⟨-, rfl⟩ | rfl⟩ := mem_updated keeps member
    · exact ⟨old, listed, (keeps old).symm, (same old).symm⟩
    · exact ⟨paper, listed, rfl, rfl⟩
  refine ⟨fun one first other second kind id => ?_, fun paper member => ?_⟩
  · apply Table.same_row _ first second
    obtain ⟨before, old, slot, own⟩ := origin one first
    obtain ⟨before', old', slot', own'⟩ := origin other second
    have kinds : before.holder.kind = before'.holder.kind := by
      rw [holder_of_slot slot, holder_of_slot slot', kind]
    rw [← slot, ← slot', numbered.distinct before old before' old' kinds (by omega)]
  · obtain ⟨before, old, slot, own⟩ := origin paper member
    have below := numbered.behind before old
    rw [holder_of_slot slot, own] at below
    exact below

/-- A job follows its row through an update that leaves the upload alone. -/
theorem AnalysisJob.Tracks.updated {job : AnalysisJob} (tracks : job.Tracks cfg archive)
    (same : ∀ paper, (change paper).id = paper.id ∧ (change paper).uploadedAt = paper.uploadedAt ∧
      (change paper).fileHash = paper.fileHash) :
    job.Tracks cfg { archive with papers := archive.papers.updateWhere chosen change keeps } := by
  -- The row is found under its old slot and id, with the upload it had.
  refine ⟨tracks.behind, fun paper member kind id => ?_⟩
  obtain ⟨old, listed, ⟨-, rfl⟩ | rfl⟩ := mem_updated keeps member
  · obtain ⟨sameId, sameTime, sameHash⟩ := same old
    rw [sameTime, sameHash]
    rw [holder_of_slot (keeps old)] at kind
    exact tracks.upToDate old listed kind (sameId ▸ id)
  · exact tracks.upToDate paper listed kind id

end Columns

section Said

variable {cfg : PaperConfig} {archive : Archive} {now : Nat}

/-- What is said of each paper stays said of its file when one is reviewed. -/
theorem own_reviewed (own : InsightsOwn cfg archive) (review : Review) :
    InsightsOwn cfg ((PaperStatement.reviewed review now).execute cfg archive) := by
  -- A review leaves the hash and what was said alone.
  intro paper member insights said
  obtain ⟨old, listed, ⟨-, rfl⟩ | rfl⟩ := mem_updated (reviewed_slot review now) member
  · exact own old listed insights said
  · exact own paper listed insights said

/-- And when what a job has found is said of the row that the job may find. -/
theorem own_analysed {job : AnalysisJob} {insights : Insights} (own : InsightsOwn cfg archive)
    (mine : job.Tracks cfg archive) (honest : insights.ofFile = job.file) :
    InsightsOwn cfg ((PaperStatement.analysed job insights now).execute cfg archive) := by
  intro paper member found said
  obtain ⟨old, listed, ⟨chosen, rfl⟩ | rfl⟩ := mem_updated (analysed_slot insights now) member
  · -- The row chosen was uploaded when the job's file was, so it is that file's.
    simp only [AnalysisJob.selects, Bool.and_eq_true, decide_eq_true_eq] at chosen
    obtain ⟨⟨kind, id⟩, time⟩ := chosen
    obtain rfl : insights = found := Option.some.inj said
    rcases mine.upToDate old listed kind id with earlier | ⟨-, hash⟩
    · omega
    · rw [honest]
      exact hash
  · exact own paper listed found said

end Said

/-- Every filing that is later than what it replaces keeps what is said about each file. -/
theorem attributed_keeps (cfg : PaperConfig) :
    (paperSystem cfg).Keeps (Attributed cfg) FiledLater where
  perm same attributed :=
    ⟨attributed.own, attributed.numbered, fun call member => attributed.tracks call (same.mem_iff.mpr member),
      fun call member => attributed.faithful call (same.mem_iff.mpr member)⟩
  moves := by
    intro pool index answer call others taken attributed later
    have rest := fun other (member : other ∈ others) =>
      attributed.tracks other (List.mem_cons_of_mem _ member)
    have loyal := fun other (member : other ∈ others) =>
      attributed.faithful other (List.mem_cons_of_mem _ member)
    have mine := attributed.tracks call List.mem_cons_self
    have honest := attributed.faithful call List.mem_cons_self
    have late := later call taken.found
    show Attributed cfg ((call.next cfg pool.shared answer).1.execute cfg pool.shared)
      ((call.next cfg pool.shared answer).2 :: others)
    -- The step is one of those a call can take.
    generalize moved : call.next cfg pool.shared answer = next
    have move := next_move cfg pool.shared answer call
    rw [moved] at move
    cases move with
    -- Such a step writes nothing, and its call goes on with the job it had, or with none.
    | quiet job _ _ insights =>
      refine ⟨attributed.own, attributed.numbered, List.forall_mem_cons.mpr ⟨?_, rest⟩,
        List.forall_mem_cons.mpr ⟨?_, loyal⟩⟩
      · intro one holds
        rcases job with none | kept
        · rw [none] at holds
          cases holds
        · exact mine one (kept ▸ holds)
      · rintro one said rfl
        by_cases same : call = .storingInsights one said
        · exact honest one said same
        · exact insights one said rfl same
    | resolved | reopened | alone | stored =>
      exact ⟨attributed.own, ⟨attributed.numbered.1, attributed.numbered.2⟩,
        List.forall_mem_cons.mpr ⟨nofun, fun other member job holds =>
          ⟨(rest other member job holds).1, (rest other member job holds).2⟩⟩,
        List.forall_mem_cons.mpr ⟨nofun, loyal⟩⟩
    -- The filing starts the job that the call tracks from here on.
    | @filed upload holder fileKey there =>
      have after := late upload holder fileKey rfl
      refine ⟨own_filed attributed.own, numbered_filed attributed.numbered,
        List.forall_mem_cons.mpr ⟨?_, fun other member job holds => (rest other member job holds).filed after⟩,
        List.forall_mem_cons.mpr ⟨nofun, loyal⟩⟩
      rintro _ ⟨⟩
      exact tracks_own attributed.numbered
    | @reviewed review =>
      exact ⟨own_reviewed attributed.own review,
        numbered_updated (reviewed_slot review _) attributed.numbered fun _ => rfl,
        List.forall_mem_cons.mpr ⟨nofun, fun other member job holds =>
          (rest other member job holds).updated (reviewed_slot review _) fun _ => ⟨rfl, rfl, rfl⟩⟩,
        List.forall_mem_cons.mpr ⟨nofun, loyal⟩⟩
    | @analysed job insights =>
      exact ⟨own_analysed attributed.own (mine job rfl) (honest job insights rfl),
        numbered_updated (analysed_slot insights _) attributed.numbered fun _ => rfl,
        List.forall_mem_cons.mpr ⟨nofun, fun other member one holds =>
          (rest other member one holds).updated (analysed_slot insights _) fun _ => ⟨rfl, rfl, rfl⟩⟩,
        List.forall_mem_cons.mpr ⟨nofun, loyal⟩⟩
  arrives := by
    intro pool entry attributed _
    obtain ⟨idle, -⟩ := start_idle entry
    refine ⟨attributed.own, attributed.numbered, List.forall_mem_cons.mpr ⟨?_, attributed.tracks⟩,
      List.forall_mem_cons.mpr ⟨?_, attributed.faithful⟩⟩
    -- A call that begins has no job, and nothing read of any file.
    · intro job holds
      rw [show ((paperSystem cfg).start entry).job = none from idle] at holds
      cases holds
    · intro job insights same
      have busy : entry.start.job = some job := by rw [show entry.start = _ from same]; rfl
      rw [idle] at busy
      cases busy
  stops := by
    intro pool index call others _ attributed _
    exact ⟨attributed.own, attributed.numbered,
      List.forall_mem_cons.mpr ⟨nofun, fun other member =>
        attributed.tracks other (List.mem_cons_of_mem _ member)⟩,
      List.forall_mem_cons.mpr ⟨nofun, fun other member =>
        attributed.faithful other (List.mem_cons_of_mem _ member)⟩⟩
  happens := by
    intro pool event attributed _ _
    obtain ⟨serial, -, fewer⟩ := happen_rows event pool.shared
    refine ⟨fun paper member => attributed.own paper (fewer paper member),
      ⟨fun one first other second => attributed.numbered.distinct one (fewer one first) other (fewer other second),
        fun paper member => ?_⟩,
      fun call member job holds => ⟨?_, fun paper listed =>
        (attributed.tracks call member job holds).upToDate paper (fewer paper listed)⟩,
      attributed.faithful⟩
    · rw [show ((paperSystem cfg).outside event pool.shared).nextId = pool.shared.nextId from serial]
      exact attributed.numbered.behind paper (fewer paper member)
    · rw [show ((paperSystem cfg).outside event pool.shared).nextId = pool.shared.nextId from serial]
      exact (attributed.tracks call member job holds).behind

/-- However uploads, reviews and analyses interleave, what is said of a paper is about the file that is there. -/
theorem insights_stay_own (cfg : PaperConfig) (archive : Archive) (own : InsightsOwn cfg archive)
    (numbered : Numbered archive) (events : List (PoolEvent PaperEntry PaperAnswer OfficeEvent))
    (later : Along (paperSystem cfg).step FiledLater ⟨archive, []⟩ events) :
    Throughout (paperSystem cfg).step (fun pool => InsightsOwn cfg pool.shared) ⟨archive, []⟩ events :=
  -- At the start no call is in flight, so no analysis is either.
  ((attributed_keeps cfg).throughout ⟨own, numbered, fun _ member => absurd member List.not_mem_nil,
    fun _ member => absurd member List.not_mem_nil⟩ later).mono
    fun _ attributed => attributed.own

/-- A scan large enough to be accepted. -/
def scan : File := 0xff :: 0xd8 :: 0xff :: List.replicate 10240 0

/-- A driver's rejected national id, with the driver on file. -/
def rejectedOnce : Archive where
  papers := {
    rows := [{
      id := 1, holder := .driver "driver", documentType := .nationalId
      fileUrl := "driver-documents/driver/national_id.png", status := .rejected, uploadedAt := 1 }]
    unique := by simp }
  nextId _ := 2
  objects _ := none
  userId _ := some 1
  fleet := []

/-- A hash, for the sake of it, and a store that is configured. -/
def plainConfig : PaperConfig where
  sha256 file := toString file.length
  storageConfigured := true

/-- The upload of the scan. -/
def scanUpload : Upload := { username := "driver", documentType := .nationalId, file := scan }

/-- The scan passes the checks on the request. -/
theorem start_scan : PaperEntry.start (.uploadDocument "driver" (some .nationalId) (some scan)) =
    .resolving scanUpload := by
  -- It is of a known type, and not too small.
  have large : ¬ scan.length < minDocumentFileSizeBytes := by
    simp only [scan, List.length_cons, List.length_replicate, minDocumentFileSizeBytes]
    omega
  simp only [PaperEntry.start, if_neg large, scanUpload]

/-- Its call arrives. -/
theorem call_scan : (paperSystem plainConfig).step ⟨rejectedOnce, []⟩
    (.call (.uploadDocument "driver" (some .nationalId) (some scan))) = ⟨rejectedOnce, [.resolving scanUpload]⟩ := by
  -- With a token and a paper type the call goes on to look up whose it is.
  have started : (paperSystem plainConfig).start
      (.uploadDocument "driver" (some .nationalId) (some scan)) = .resolving scanUpload := by
    rw [system_start, start_scan]
  simp only [CallSystem.step, started, List.nil_append]

/-- A rejected paper filed again, and analysed: what is said of it is about the new file. -/
theorem insights_stay_own_refiled :
    Throughout (paperSystem plainConfig).step (fun pool => InsightsOwn plainConfig pool.shared) ⟨rejectedOnce, []⟩
      [.call (.uploadDocument "driver" (some .nationalId) (some scan)), .run 0 {}, .run 0 {}, .run 0 {}, .run 0 {},
        .run 0 { now := 2 }, .run 0 {}, .run 0 {}, .run 0 { summary := some "" }, .run 0 { now := 3 }] := by
  refine insights_stay_own plainConfig rejectedOnce ?_ ⟨?_, ?_⟩ _ ⟨trivial, ?_⟩
  · simp [InsightsOwn, rejectedOnce]
  · simp [rejectedOnce]
  · simp [rejectedOnce]
  · rw [call_scan]
    refine ⟨?_, ?_, ?_, ?_, ?_, ?_, ?_, ?_, ?_, trivial⟩
    all_goals rintro _ ⟨⟩ _ _ _ ⟨⟩
    -- Only the fifth of these steps files a paper.
    rintro _ ⟨⟩
    decide

end Freight.Documents
