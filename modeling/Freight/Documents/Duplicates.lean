import Freight.Documents.Storage

/-! Whether one file can stand for two documents of one holder. -/

namespace Freight.Documents

/-- No two papers of one holder that are submitted or approved carry the hash of one file. -/
def NoTwins (archive : Archive) : Prop :=
  ∀ one ∈ archive.papers.rows, ∀ other ∈ archive.papers.rows, one.live → other.live →
    one.holder = other.holder → ∀ hash, one.fileHash = some hash → other.fileHash = some hash → one = other

/-- The upload a call is past the search for identical files with, and whom it goes to. -/
def PaperCall.searched : PaperCall → Option (Upload × Holder)
  | .storing upload holder | .filing upload holder _ => some (upload, holder)
  | _ => none

/-- The holder whose papers a call has searched. -/
def PaperCall.adds (call : PaperCall) : Option Holder := call.searched.map Prod.snd

/--
The condition on an event: an upload passes the search for identical files while no other upload for its holder
is past it, and what is approved was submitted.
-/
def OneAtATime (pool : Pool Archive PaperCall) : PoolEvent PaperEntry PaperAnswer OfficeEvent → Prop
  | .run index _ => ∀ call ∈ pool.calls[index]?,
    match call with
    -- The search and the filing are two statements, and no other upload comes between.
    | .checkingDuplicates _ holder => ∀ other ∈ pool.calls.eraseIdx index, holder ∉ other.adds
    -- A rejected paper is not approved by a later word.
    | .deciding review =>
      review.approves → ∀ paper ∈ pool.shared.papers.rows, review.selects paper → paper.live
    | _ => True
  | _ => True

/-- What the search has found: the file is on file for the holder under no other type. -/
def PaperCall.Single (cfg : PaperConfig) (archive : Archive) (call : PaperCall) : Prop :=
  ∀ target ∈ call.searched, ∀ paper ∈ archive.papers.rows, paper.live → paper.holder = target.2 →
    paper.fileHash = some (cfg.sha256 target.1.file) → paper.documentType = target.1.documentType

/-- What every interleaving keeps. -/
structure Distinct (cfg : PaperConfig) (archive : Archive) (calls : List PaperCall) : Prop where
  single : NoTwins archive
  reserved : Reserved PaperCall.adds (PaperCall.Single cfg) archive calls

section Steps

variable {cfg : PaperConfig} {archive later : Archive} {call : PaperCall}

/-- Fewer live papers hold no more twins. -/
theorem NoTwins.quieter (noTwins : NoTwins archive) (quieter : Quieter archive later) : NoTwins later := by
  intro one member other listed live alive same hash carries carried
  obtain ⟨before, first, was, -, mine, slot⟩ := quieter.live one member live
  obtain ⟨before', second, was', -, yours, slot'⟩ := quieter.live other listed alive
  have holders : before.holder = before'.holder := by
    rw [← holder_of_slot slot, ← holder_of_slot slot', same]
  have equal := noTwins before first before' second was was' holders hash (mine ▸ carries) (yours ▸ carried)
  -- Two rows of one slot are one row.
  exact later.papers.same_row member listed (by rw [slot, slot', equal])

/-- And what the search has found stays found. -/
theorem PaperCall.Single.quieter (single : call.Single cfg archive) (quieter : Quieter archive later) :
    call.Single cfg later := by
  -- What is live then was live before, with the same file and in the same slot.
  intro target holds paper member live own hash
  obtain ⟨old, listed, was, -, carries, slot⟩ := quieter.live paper member live
  rw [show paper.documentType = old.documentType from congrArg Prod.snd slot]
  exact single target holds old listed was ((holder_of_slot slot).symm.trans own) (carries ▸ hash)

/-- A call that has searched nothing has found nothing. -/
theorem single_of_idle (idle : call.searched = none) : call.Single cfg archive := by
  -- It has no search to have found anything by.
  intro target holds
  rw [idle] at holds
  cases holds

/-- Nor does it add anything. -/
theorem adds_of_idle (idle : call.searched = none) : call.adds = none := by
  -- What a call adds is read off its upload.
  simp only [PaperCall.adds, idle, Option.map_none]

/-- Nothing is past the search that is not under way. -/
theorem searched_of_underWay (idle : call.underWay = none) : call.searched = none := by
  -- The search comes after the call is under way.
  cases call <;> first | rfl | cases idle

/-- A search that comes back empty has found the file under no other type. -/
theorem single_of_search {upload : Upload} {holder : Holder} (next : call.searched = some (upload, holder))
    (nothing : archive.duplicated holder upload.documentType (cfg.sha256 upload.file) = false) :
    call.Single cfg archive := by
  intro target holds paper member live own hash
  rw [next] at holds
  cases holds
  -- A paper under another type would have been found.
  by_contra other
  have found : archive.duplicated holder upload.documentType (cfg.sha256 upload.file) = true := by
    refine List.any_eq_true.mpr ⟨paper, member, ?_⟩
    simp [own, other, hash, live]
  rw [nothing] at found
  cases found

/-- A filing of a file that is on file under no other type makes no twins. -/
theorem noTwins_filed {upload : Upload} {holder : Holder} {fileKey : String} {now : Nat} (noTwins : NoTwins archive)
    (single : PaperCall.Single cfg archive (.filing upload holder fileKey)) :
    NoTwins ((PaperStatement.filed upload holder fileKey now).execute cfg archive) := by
  have own := single (upload, holder) rfl
  intro one member other listed live alive same hash carries carried
  rcases live_filed member with old | ⟨-, mine, slot⟩ <;> rcases live_filed listed with old' | ⟨-, yours, slot'⟩
  · exact noTwins one old other old' live alive same hash carries carried
  · -- A paper that was there with this file is the one that was filed again.
    have type := own one old live (same.trans (holder_of_key slot')) (carries.trans (carried.symm.trans yours))
    refine Table.same_row _ member listed ?_
    rw [slot']
    exact Prod.ext (same.trans (holder_of_key slot')) type
  · have type := own other old' alive (same.symm.trans (holder_of_key slot))
      (carried.trans (carries.symm.trans mine))
    refine Table.same_row _ member listed ?_
    rw [slot]
    exact (Prod.ext (same.symm.trans (holder_of_key slot)) type : other.slot = _).symm
  · exact Table.same_row _ member listed (slot.trans slot'.symm)

/-- A filing for one holder leaves what was found for another. -/
theorem PaperCall.Single.filed {upload : Upload} {holder : Holder} {fileKey : String} {now : Nat}
    (single : call.Single cfg archive) (apart : holder ∉ call.adds) :
    call.Single cfg ((PaperStatement.filed upload holder fileKey now).execute cfg archive) := by
  -- The one paper that is new is the other holder's.
  intro target holds paper member live own hash
  rcases live_filed member with old | ⟨-, -, slot⟩
  · exact single target holds paper old live own hash
  · refine absurd ?_ apart
    rw [← holder_of_key slot, own]
    exact congrArg (Option.map Prod.snd) holds

end Steps

/-- Every event of that kind keeps papers from having twins. -/
theorem distinct_keeps (cfg : PaperConfig) : (paperSystem cfg).Keeps (Distinct cfg) OneAtATime where
  perm same distinct := ⟨distinct.single, distinct.reserved.perm same⟩
  moves := by
    intro pool index answer call others taken distinct condition
    have mine := distinct.reserved.first
    have condition := condition call taken.found
    rw [← taken.rest] at condition
    show Distinct cfg ((call.next cfg pool.shared answer).1.execute cfg pool.shared)
      ((call.next cfg pool.shared answer).2 :: others)
    generalize moved : call.next cfg pool.shared answer = next
    have move := next_move cfg pool.shared answer call
    rw [moved] at move
    cases move with
    -- Nothing is written, and the call has no search behind it.
    | quiet _ idle _ _ =>
      have nothing := searched_of_underWay idle
      exact ⟨distinct.single,
        distinct.reserved.lets_go (single_of_idle nothing) (adds_of_idle nothing) fun _ _ single => single⟩
    | resolved | reopened =>
      exact ⟨distinct.single, distinct.reserved.lets_go (single_of_idle rfl) rfl fun _ _ single => single⟩
    -- The search found no twin, and the condition keeps others from searching until it is filed.
    | @alone upload holder nothing =>
      refine ⟨distinct.single,
        distinct.reserved.moves (single_of_search rfl nothing) (fun _ _ single => single) ?_⟩
      -- From here on no other upload for this holder is searched for.
      rintro _ ⟨⟩
      exact .inr condition
    | stored => exact ⟨distinct.single, distinct.reserved.moves mine (fun _ _ single => single) fun _ => .inl⟩
    | filed =>
      exact ⟨noTwins_filed distinct.single mine, distinct.reserved.lets_go (single_of_idle rfl) rfl
        fun _ apart single => single.filed (apart _ rfl)⟩
    -- A review writes no hash.
    | @reviewed review =>
      have quieter : Quieter pool.shared ((PaperStatement.reviewed review answer.now).execute cfg pool.shared) :=
        quieter_reviewed condition
      exact ⟨distinct.single.quieter quieter, distinct.reserved.lets_go (single_of_idle rfl) rfl
        fun _ _ single => single.quieter quieter⟩
    -- Neither does the analysis of a file.
    | @analysed job insights =>
      have quieter : Quieter pool.shared
          ((PaperStatement.analysed job insights answer.now).execute cfg pool.shared) := quieter_analysed
      exact ⟨distinct.single.quieter quieter, distinct.reserved.lets_go (single_of_idle rfl) rfl
        fun _ _ single => single.quieter quieter⟩
  arrives := by
    intro pool entry distinct _
    obtain ⟨-, idle, -⟩ := start_idle entry
    have nothing := searched_of_underWay idle
    exact ⟨distinct.single, distinct.reserved.cons_idle (single_of_idle nothing) (adds_of_idle nothing)⟩
  stops := by
    intro pool index call others _ distinct _
    exact ⟨distinct.single, distinct.reserved.tail.cons_idle (single_of_idle rfl) rfl⟩
  happens := by
    intro pool event distinct _ _
    have quieter := quieter_happen event pool.shared
    exact ⟨distinct.single.quieter quieter, distinct.reserved.spare fun _ _ single => single.quieter quieter⟩

/-- While uploads for one holder take turns, no file ever stands for two of the holder's documents. -/
theorem no_twins (cfg : PaperConfig) (archive : Archive) (noTwins : NoTwins archive)
    (events : List (PoolEvent PaperEntry PaperAnswer OfficeEvent))
    (turns : Along (paperSystem cfg).step OneAtATime ⟨archive, []⟩ events) :
    Throughout (paperSystem cfg).step (fun pool => NoTwins pool.shared) ⟨archive, []⟩ events :=
  ((distinct_keeps cfg).throughout ⟨noTwins, .nil⟩ turns).mono fun _ distinct => distinct.single

/-- A rejected paper filed again and then approved, with nothing else on file. -/
theorem no_twins_refiled :
    Throughout (paperSystem plainConfig).step (fun pool => NoTwins pool.shared) ⟨rejectedOnce, []⟩
      [.call (.uploadDocument "driver" (some .nationalId) (some scan)), .run 0 {}, .run 0 {}, .run 0 {}, .run 0 {},
        .run 0 { now := 2 },
        .call (.updateDocumentStatus 1 (some .approved) none none (some .driver) "admin" 3), .run 1 { now := 4 }] := by
  -- One paper is on file at first, and no two calls are under way at once.
  refine no_twins plainConfig rejectedOnce ?_ _ ⟨trivial, ?_⟩
  · intro one member other listed _ _ _ _ _ _
    exact (List.mem_singleton.mp member).trans (List.mem_singleton.mp listed).symm
  · rw [call_scan]
    refine ⟨?_, ?_, ?_, ?_, ?_, trivial, ?_, trivial⟩
    all_goals rintro _ ⟨⟩
    · trivial
    · trivial
    · exact nofun
    · trivial
    · trivial
    · intro _ paper member _
      obtain rfl := List.mem_singleton.mp member
      rfl

end Freight.Documents
