import Freight.Documents.Analyses
import Freight.Library.Reserve

/-! Whether the object store still holds the file a paper was filed with. -/

namespace Freight.Documents

open Dispatch (DocumentType vehicleDocumentTypes)

/-- Behind every paper submitted or approved stands the file whose hash it carries. -/
def FilesKept (cfg : PaperConfig) (archive : Archive) : Prop :=
  ∀ paper ∈ archive.papers.rows, paper.live →
    ∃ file, archive.objects paper.fileUrl = some file ∧ paper.fileHash = some (cfg.sha256 file)

/-- Whom a driver's papers go to while the driver keeps to one truck. -/
def Upload.home (truck : String → Nat) (upload : Upload) : Holder :=
  if vehicleDocumentTypes.contains upload.documentType then .vehicle (truck upload.username)
  else .driver upload.username

/-- Whose upload it is, and for which type: all that its keys depend on, besides the type of the file. -/
def Upload.owner (upload : Upload) : String × DocumentType := (upload.username, upload.documentType)

/-- The owner whose keys a call may still write to. -/
def PaperCall.writes (call : PaperCall) : Option (String × DocumentType) :=
  call.underWay.map fun target => target.1.owner

/--
The condition on an event: papers go to the truck their driver keeps to, an upload passes the status check
while no other of its owner is under way, and what is approved was submitted.
-/
def Orderly (truck : String → Nat) (pool : Pool Archive PaperCall) :
    PoolEvent PaperEntry PaperAnswer OfficeEvent → Prop
  | .run index _ => ∀ call ∈ pool.calls[index]?,
    match call with
    | .resolving upload =>
      ∀ holder ∈ pool.shared.resolveTarget upload.username upload.documentType, holder = upload.home truck
    -- The check and the filing are two statements, and no other upload of the owner comes between.
    | .checkingStatus upload _ => ∀ other ∈ pool.calls.eraseIdx index, upload.owner ∉ other.writes
    | .deciding review =>
      review.approves → ∀ paper ∈ pool.shared.papers.rows, review.selects paper → paper.live
    | _ => True
  | _ => True

/-- What the parts before and after the last separator are, the whole tells. -/
theorem last_segment_inj {α : Type*} {separator : α} {path path' name name' : List α}
    (plain : separator ∉ name) (plain' : separator ∉ name')
    (same : path ++ separator :: name = path' ++ separator :: name') : path = path' ∧ name = name' := by
  -- Backwards, the names come first, and each ends at its first separator.
  have front : ∀ {front front' rest rest' : List α}, separator ∉ front → separator ∉ front' →
      front ++ separator :: rest = front' ++ separator :: rest' → front = front' ∧ rest = rest' := by
    intro front
    induction front with
    | nil =>
      intro front' rest rest' _ without same
      cases front' with
      | nil => exact ⟨rfl, (List.cons.inj same).2⟩
      | cons first others => exact absurd (List.cons.inj same).1 fun equal => without (equal ▸ List.mem_cons_self)
    | cons first others ih =>
      intro front' rest rest' without without' same
      cases front' with
      | nil => exact absurd (List.cons.inj same).1 fun equal => without (equal ▸ List.mem_cons_self)
      | cons first' others' =>
        obtain ⟨head, tail⟩ := List.cons.inj same
        obtain ⟨rfl, rfl⟩ := ih (fun member => without (List.mem_cons_of_mem _ member))
          (fun member => without' (List.mem_cons_of_mem _ member)) tail
        exact ⟨by rw [head], rfl⟩
  have reversed := congrArg List.reverse same
  simp only [List.reverse_append, List.reverse_cons, List.append_assoc, List.singleton_append] at reversed
  obtain ⟨names, paths⟩ := front (by simpa using plain) (by simpa using plain') reversed
  exact ⟨List.reverse_injective paths, List.reverse_injective names⟩

/-- A key tells whose upload it holds, and of which type, whatever the driver is called. -/
theorem fileKey_inj {one other : Upload} {type type' : FileType} (same : one.fileKey type = other.fileKey type') :
    one.owner = other.owner := by
  have parts : ∀ (upload : Upload) (type : FileType), (upload.fileKey type).toList =
      "driver-documents/".toList ++ (upload.username.toList ++
        '/' :: ((typeName upload.documentType).toList ++ '.' :: type.extension.toList)) := by
    intro upload type
    have slash : "/".toList = ['/'] := by decide
    have dot : ".".toList = ['.'] := by decide
    unfold Upload.fileKey
    rw [String.toList_append, String.toList_append, String.toList_append, String.toList_append,
      String.toList_append, slash, dot]
    simp only [List.append_assoc, List.cons_append, List.nil_append]
  have plain : ∀ (document : DocumentType) (type : FileType),
      '/' ∉ (typeName document).toList ++ '.' :: type.extension.toList := by
    intro document type
    cases document <;> cases type <;> decide
  have texts := congrArg String.toList same
  rw [parts, parts] at texts
  obtain ⟨users, names⟩ := last_segment_inj (plain one.documentType type) (plain other.documentType type')
    (List.append_cancel_left texts)
  -- The name of the type ends at the dot.
  have undotted : ∀ type : FileType, '.' ∉ type.extension.toList := fun type => by cases type <;> decide
  obtain ⟨types, -⟩ := last_segment_inj (undotted type) (undotted type') names
  have named : Function.Injective typeName := by
    intro document document' same
    cases document <;> cases document' <;> first | rfl | exact absurd same (by decide)
  exact Prod.ext (String.toList_inj.mp users) (named (String.toList_inj.mp types))

/-- A live paper lies under a key of an upload that goes where the paper is. -/
def Keyed (truck : String → Nat) (archive : Archive) : Prop :=
  ∀ paper ∈ archive.papers.rows, paper.live → ∃ upload : Upload, ∃ type,
    paper.fileUrl = upload.fileKey type ∧ paper.slot = (upload.home truck, upload.documentType)

/-- Nothing live lies under an owner's keys. -/
def Vacant (archive : Archive) (owner : String × DocumentType) : Prop :=
  ∀ paper ∈ archive.papers.rows, paper.live →
    ∀ (upload : Upload) (type : FileType), upload.owner = owner → paper.fileUrl ≠ upload.fileKey type

/-- What one call on its way to a filing relies on. -/
structure PaperCall.InOrder (truck : String → Nat) (archive : Archive) (call : PaperCall) : Prop where
  checking : ∀ upload holder, call = .checkingStatus upload holder → holder = upload.home truck
  target : ∀ target ∈ call.underWay, target.2 = target.1.home truck
  vacant : ∀ owner ∈ call.writes, Vacant archive owner
  stored : ∀ upload holder fileKey, call = .filing upload holder fileKey →
    (∃ type, fileKey = upload.fileKey type) ∧ archive.objects fileKey = some upload.file

/-- What every interleaving keeps. -/
structure Kept (cfg : PaperConfig) (truck : String → Nat) (archive : Archive) (calls : List PaperCall) : Prop where
  files : FilesKept cfg archive
  keyed : Keyed truck archive
  /-- Each upload under way has its keys to itself. -/
  reserved : Reserved PaperCall.writes (fun archive call => call.InOrder truck archive) archive calls

section Steps

variable {cfg : PaperConfig} {truck : String → Nat} {archive later : Archive} {call : PaperCall}

/-- Of what is live, nothing is added, and the objects stay. -/
structure Quieter (archive later : Archive) : Prop where
  objects : later.objects = archive.objects
  live : ∀ paper ∈ later.papers.rows, paper.live → ∃ old ∈ archive.papers.rows, old.live ∧
    paper.fileUrl = old.fileUrl ∧ paper.fileHash = old.fileHash ∧ paper.slot = old.slot

/-- Fewer live papers are no less well kept. -/
theorem FilesKept.quieter (kept : FilesKept cfg archive) (quieter : Quieter archive later) :
    FilesKept cfg later := by
  -- A paper that is live was live before, and its file is where it was.
  intro paper member live
  obtain ⟨old, listed, was, url, hash, -⟩ := quieter.live paper member live
  rw [url, hash, quieter.objects]
  exact kept old listed was

/-- Nor less well keyed. -/
theorem Keyed.quieter (keyed : Keyed truck archive) (quieter : Quieter archive later) : Keyed truck later := by
  -- A live paper was there before, under the same name and in the same place.
  intro paper member live
  obtain ⟨old, listed, was, url, -, slot⟩ := quieter.live paper member live
  rw [url, slot]
  exact keyed old listed was

/-- And what was vacant stays so. -/
theorem Vacant.quieter {owner : String × DocumentType} (vacant : Vacant archive owner)
    (quieter : Quieter archive later) : Vacant later owner := by
  -- A paper that is live was live before, under the same key.
  intro paper member live
  obtain ⟨old, listed, was, url, -⟩ := quieter.live paper member live
  rw [url]
  exact vacant old listed was

/-- Every call stays in order. -/
theorem PaperCall.InOrder.quieter (inOrder : call.InOrder truck archive) (quieter : Quieter archive later) :
    call.InOrder truck later where
  -- What a call relies on is what is live and what is stored, and neither has grown.
  checking := inOrder.checking
  target := inOrder.target
  vacant owner writes := (inOrder.vacant owner writes).quieter quieter
  stored upload holder fileKey is := by
    rw [quieter.objects]
    exact inOrder.stored upload holder fileKey is

/-- An update that makes nothing live and leaves the uploads alone is quieter. -/
theorem quieter_updated {chosen : Paper → Bool} {change : Paper → Paper}
    (keeps : ∀ paper, (change paper).slot = paper.slot)
    (same : ∀ paper, (change paper).fileUrl = paper.fileUrl ∧ (change paper).fileHash = paper.fileHash)
    (live : ∀ paper ∈ archive.papers.rows, chosen paper → (change paper).live → paper.live) :
    Quieter archive { archive with papers := archive.papers.updateWhere chosen change keeps } := by
  -- A row that is live afterwards is one that was, with its own file.
  refine ⟨rfl, fun paper member alive => ?_⟩
  obtain ⟨old, listed, ⟨one, rfl⟩ | rfl⟩ := mem_updated keeps member
  · exact ⟨old, listed, live old listed one alive, (same old).1, (same old).2, keeps old⟩
  · exact ⟨paper, listed, alive, rfl, rfl, rfl⟩

/-- So is a review that approves nothing that was rejected. -/
theorem quieter_reviewed {review : Review} {now : Nat}
    (condition : review.approves → ∀ paper ∈ archive.papers.rows, review.selects paper → paper.live) :
    Quieter archive ((PaperStatement.reviewed review now).execute cfg archive) := by
  refine quieter_updated (reviewed_slot review _) (fun _ => ⟨rfl, rfl⟩) fun paper member chosen live => ?_
  -- What a review leaves live it approves.
  by_cases approves : review.approves = true
  · exact condition approves paper member chosen
  · simp [Paper.live, Paper.reviewed, approves] at live

/-- And an analysis. -/
theorem quieter_analysed {job : AnalysisJob} {insights : Insights} {now : Nat} :
    Quieter archive ((PaperStatement.analysed job insights now).execute cfg archive) :=
  quieter_updated (analysed_slot insights _) (fun _ => ⟨rfl, rfl⟩) fun _ _ _ live => live

/-- And whatever happens outside the calls. -/
theorem quieter_happen (event : OfficeEvent) (archive : Archive) : Quieter archive (event.happen archive) := by
  -- The office takes rows away, and leaves the objects.
  obtain ⟨-, objects, fewer⟩ := happen_rows event archive
  exact ⟨objects, fun paper member live => ⟨paper, fewer paper member, live, rfl, rfl, rfl⟩⟩

/-- Where the slot an upload goes to holds nothing live, nothing live lies under its keys. -/
theorem vacant_of_slot {upload : Upload} (keyed : Keyed truck archive)
    (vacant : ¬ (archive.papers.find? (upload.home truck, upload.documentType)).any Paper.live) :
    Vacant archive upload.owner := by
  intro paper member live other type same under
  obtain ⟨own, ownType, url, slot⟩ := keyed paper member live
  -- A paper under one of its keys would be a paper of its slot.
  have owner : own.owner = upload.owner := (fileKey_inj (url.symm.trans under)).trans same
  have user : own.username = upload.username := congrArg Prod.fst owner
  have document : own.documentType = upload.documentType := congrArg Prod.snd owner
  have home : own.home truck = upload.home truck := by simp only [Upload.home, user, document]
  rw [home, document] at slot
  have found := Table.find?_eq_some.mpr ⟨member, slot⟩
  rw [found] at vacant
  exact vacant (by simpa using live)

variable {upload : Upload} {type : FileType}

/-- A file put under a vacant key leaves every live paper its own. -/
theorem FilesKept.put (kept : FilesKept cfg archive) (vacant : Vacant archive upload.owner) (file : File) :
    FilesKept cfg ((PaperStatement.put (upload.fileKey type) file).execute cfg archive) := by
  -- No live paper has that key, so none loses its file.
  intro paper member live
  obtain ⟨own, there, hash⟩ := kept paper member live
  refine ⟨own, ?_, hash⟩
  show (if paper.fileUrl = upload.fileKey type then some file else archive.objects paper.fileUrl) = some own
  rw [if_neg (vacant paper member live upload type rfl), there]

/-- And every other call that has stored its file finds it there. -/
theorem PaperCall.InOrder.put (inOrder : call.InOrder truck archive)
    (apart : upload.owner ∉ call.writes) (file : File) :
    call.InOrder truck ((PaperStatement.put (upload.fileKey type) file).execute cfg archive) where
  checking := inOrder.checking
  target := inOrder.target
  vacant := inOrder.vacant
  stored other holder fileKey is := by
    obtain ⟨⟨type', rfl⟩, there⟩ := inOrder.stored other holder fileKey is
    refine ⟨⟨type', rfl⟩, ?_⟩
    show (if other.fileKey type' = upload.fileKey type then some file else archive.objects (other.fileKey type')) = _
    rw [if_neg, there]
    -- Under one key there would be two uploads of one owner.
    intro same
    subst is
    exact apart (congrArg some (fileKey_inj same))

variable {holder : Holder} {now : Nat}

/-- A filed paper, or one that was there, is what a live paper is after a filing. -/
theorem live_filed {fileKey : String} {paper : Paper}
    (member : paper ∈ ((PaperStatement.filed upload holder fileKey now).execute cfg archive).papers.rows) :
    paper ∈ archive.papers.rows ∨ (paper.fileUrl = fileKey ∧ paper.fileHash = some (cfg.sha256 upload.file) ∧
      paper.slot = (holder, upload.documentType)) := by
  -- A filing inserts a row, or refiles one under its slot.
  rcases mem_filed member with ⟨old, -⟩ | ⟨old, found, rfl⟩ | ⟨-, rfl⟩
  · exact .inl old
  · exact .inr ⟨rfl, rfl, (Table.find?_eq_some.mp found).2⟩
  · exact .inr ⟨rfl, rfl, rfl⟩

end Steps

/-- A call with nothing under way reserves nothing. -/
theorem writes_of_idle {call : PaperCall} (idle : call.underWay = none) : call.writes = none := by
  -- What a call writes is read off its upload.
  simp only [PaperCall.writes, idle, Option.map_none]

/-- And is in order. -/
theorem inOrder_of_idle {truck : String → Nat} {archive : Archive} {call : PaperCall} (idle : call.underWay = none)
    (unchecked : ∀ upload holder, call ≠ .checkingStatus upload holder) : call.InOrder truck archive where
  -- A call that holds nothing relies on nothing.
  checking upload holder is := absurd is (unchecked upload holder)
  target target holds := by
    rw [idle] at holds
    cases holds
  vacant owner writes := by
    rw [writes_of_idle idle] at writes
    cases writes
  stored upload holder fileKey is := by
    rw [is] at idle
    cases idle

/-- Every orderly event keeps the files that stand behind the papers. -/
theorem kept_keeps (cfg : PaperConfig) (truck : String → Nat) :
    (paperSystem cfg).Keeps (Kept cfg truck) (Orderly truck) where
  perm same kept := ⟨kept.files, kept.keyed, kept.reserved.perm same⟩
  moves := by
    intro pool index answer call others taken kept orderly
    have mine := kept.reserved.first
    have condition := orderly call taken.found
    rw [← taken.rest] at condition
    show Kept cfg truck ((call.next cfg pool.shared answer).1.execute cfg pool.shared)
      ((call.next cfg pool.shared answer).2 :: others)
    generalize moved : call.next cfg pool.shared answer = next
    have move := next_move cfg pool.shared answer call
    rw [moved] at move
    cases move with
    | quiet _ idle unchecked _ =>
      exact ⟨kept.files, kept.keyed,
        kept.reserved.lets_go (inOrder_of_idle idle unchecked) (writes_of_idle idle) fun _ _ inOrder => inOrder⟩
    | @resolved upload holder resolves =>
      refine ⟨kept.files, kept.keyed,
        kept.reserved.lets_go ⟨?_, nofun, nofun, nofun⟩ rfl fun _ _ inOrder => inOrder⟩
      rintro _ _ ⟨⟩
      exact condition holder resolves
    | @reopened upload holder vacant =>
      obtain rfl := mine.checking upload holder rfl
      refine ⟨kept.files, kept.keyed,
        kept.reserved.moves ⟨nofun, ?_, ?_, nofun⟩ (fun _ _ inOrder => inOrder) ?_⟩
      · rintro _ ⟨⟩
        rfl
      · rintro _ ⟨⟩
        exact vacant_of_slot kept.keyed vacant
      · -- From here on the upload has its keys to itself.
        rintro _ ⟨⟩
        exact .inr condition
    | @alone upload holder _ =>
      exact ⟨kept.files, kept.keyed,
        kept.reserved.moves ⟨nofun, mine.target, mine.vacant, nofun⟩ (fun _ _ inOrder => inOrder) fun _ => .inl⟩
    | @stored upload holder type =>
      refine ⟨kept.files.put (mine.vacant _ rfl) _, kept.keyed,
        kept.reserved.moves ⟨nofun, mine.target, mine.vacant, ?_⟩
          (fun other apart inOrder => inOrder.put (apart _ rfl) _) fun _ => .inl⟩
      rintro _ _ _ ⟨⟩
      exact ⟨⟨type, rfl⟩, if_pos rfl⟩
    | @filed upload holder fileKey there =>
      obtain ⟨⟨type, rfl⟩, stands⟩ := mine.stored upload holder fileKey rfl
      have home := mine.target _ rfl
      refine ⟨?_, ?_, kept.reserved.lets_go (inOrder_of_idle rfl nofun) rfl fun other apart inOrder =>
        ⟨inOrder.checking, inOrder.target, ?_, inOrder.stored⟩⟩
      · intro paper member live
        rcases live_filed member with old | ⟨url, hash, -⟩
        · exact kept.files paper old live
        · exact ⟨upload.file, by rw [url]; exact stands, hash⟩
      · intro paper member live
        rcases live_filed member with old | ⟨url, -, slot⟩
        · exact kept.keyed paper old live
        · exact ⟨upload, type, url, by rw [slot]; exact congrArg (·, _) home⟩
      · -- What is live from now on lies under a key of this upload's owner.
        intro owner writes paper listed live other' type' same under
        rcases live_filed listed with old | ⟨url, -, -⟩
        · exact inOrder.vacant owner writes paper old live other' type' same under
        · obtain rfl := (fileKey_inj (url.symm.trans under)).trans same
          exact apart _ rfl writes
    | @reviewed review =>
      have quieter : Quieter pool.shared ((PaperStatement.reviewed review answer.now).execute cfg pool.shared) :=
        quieter_reviewed condition
      exact ⟨kept.files.quieter quieter, kept.keyed.quieter quieter,
        kept.reserved.lets_go (inOrder_of_idle rfl nofun) rfl fun _ _ inOrder => inOrder.quieter quieter⟩
    | @analysed job insights =>
      have quieter : Quieter pool.shared
          ((PaperStatement.analysed job insights answer.now).execute cfg pool.shared) := quieter_analysed
      exact ⟨kept.files.quieter quieter, kept.keyed.quieter quieter,
        kept.reserved.lets_go (inOrder_of_idle rfl nofun) rfl fun _ _ inOrder => inOrder.quieter quieter⟩
  arrives := by
    intro pool entry kept _
    obtain ⟨-, idle, unchecked⟩ := start_idle entry
    exact ⟨kept.files, kept.keyed, kept.reserved.cons_idle (inOrder_of_idle idle unchecked) (writes_of_idle idle)⟩
  stops := by
    intro pool index call others _ kept _
    exact ⟨kept.files, kept.keyed, kept.reserved.tail.cons_idle (inOrder_of_idle rfl nofun) rfl⟩
  happens := by
    intro pool event kept _ _
    have quieter := quieter_happen event pool.shared
    exact ⟨kept.files.quieter quieter, kept.keyed.quieter quieter,
      kept.reserved.spare fun _ _ inOrder => inOrder.quieter quieter⟩

/-- While papers are filed and approved in order, every live paper keeps the file it was filed with. -/
theorem files_stay_kept (cfg : PaperConfig) (truck : String → Nat) (archive : Archive)
    (kept : FilesKept cfg archive) (keyed : Keyed truck archive)
    (events : List (PoolEvent PaperEntry PaperAnswer OfficeEvent))
    (orderly : Along (paperSystem cfg).step (Orderly truck) ⟨archive, []⟩ events) :
    Throughout (paperSystem cfg).step (fun pool => FilesKept cfg pool.shared) ⟨archive, []⟩ events :=
  -- At the start no call is in flight.
  ((kept_keeps cfg truck).throughout
    ⟨kept, keyed, .nil⟩ orderly).mono fun _ kept => kept.files

/-- A rejected paper filed again and then approved is approved with the file that was sent. -/
theorem files_stay_kept_refiled :
    Throughout (paperSystem plainConfig).step (fun pool => FilesKept plainConfig pool.shared) ⟨rejectedOnce, []⟩
      [.call (.uploadDocument "driver" (some .nationalId) (some scan)), .run 0 {}, .run 0 {}, .run 0 {}, .run 0 {},
        .run 0 { now := 2 },
        .call (.updateDocumentStatus 1 (some .approved) none none (some .driver) "admin" 3), .run 1 { now := 4 }] := by
  refine files_stay_kept plainConfig (fun _ => 0) rejectedOnce ?_ ?_ _ ⟨trivial, ?_⟩
  · simp [FilesKept, rejectedOnce, Paper.live]
  · simp [Keyed, rejectedOnce, Paper.live]
  · rw [call_scan]
    refine ⟨?_, ?_, ?_, ?_, ?_, trivial, ?_, trivial⟩
    all_goals rintro _ ⟨⟩
    · rintro _ ⟨⟩
      rfl
    · rintro _ ⟨⟩
    · trivial
    · trivial
    · trivial
    · -- What is approved is the paper just filed.
      intro _ paper member _
      obtain rfl := List.mem_singleton.mp member
      rfl

/-- Why a driver has to keep to one truck: a file put under a live paper's key takes the place of its own. -/
theorem put_overwrites (cfg : PaperConfig) (archive : Archive) (upload : Upload) (type : FileType) (paper : Paper)
    (member : paper ∈ archive.papers.rows) (live : paper.live) (under : paper.fileUrl = upload.fileKey type)
    (other : paper.fileHash ≠ some (cfg.sha256 upload.file)) :
    ¬ FilesKept cfg ((PaperStatement.put (upload.fileKey type) upload.file).execute cfg archive) := by
  intro kept
  obtain ⟨file, there, hash⟩ := kept paper member live
  -- What is found under the key is what was put there.
  have put : ((PaperStatement.put (upload.fileKey type) upload.file).execute cfg archive).objects paper.fileUrl =
      some upload.file := if_pos under
  obtain rfl : upload.file = file := Option.some.inj (put.symm.trans there)
  exact other hash

end Freight.Documents
