import Mathlib.Data.List.Basic
import Mathlib.Data.List.Induction

/-! Records of visits: entries into places, each with a kind, and exits that match them. -/

namespace Freight

/-- What is recorded of a visitor. -/
inductive Visit (Z L : Type*) where
  | enter (place : Z) (kind : L)
  | leave (place : Z)
  deriving DecidableEq

namespace Visit

variable {Z L : Type*} {visits : List (Visit Z L)} {place other : Z} {kind mode : L}

/-- An entry of that kind has not been followed by an exit from its place. -/
def OpenAs (visits : List (Visit Z L)) (place : Z) (kind : L) : Prop :=
  ∃ earlier between, visits = earlier ++ .enter place kind :: between ∧ .leave place ∉ between

/-- An entry of some kind has not been followed by an exit from its place. -/
def Open (visits : List (Visit Z L)) (place : Z) : Prop := ∃ kind, OpenAs visits place kind

/-- Entries and exits come in matching pairs. -/
structure Matched (visits : List (Visit Z L)) : Prop where
  /-- A place is left before another one is entered. -/
  left_first : ∀ before one kind between other mode after,
    visits = before ++ .enter one kind :: between ++ .enter other mode :: after →
    other ≠ one → .leave one ∈ between
  /-- A place that is left had been entered. -/
  entered : ∀ before place after, visits = before ++ .leave place :: after → Open before place

/-- Nothing is recorded yet. -/
theorem matched_nil : Matched ([] : List (Visit Z L)) where
  -- There is neither a visit nor a record.
  left_first := fun _ _ _ _ _ _ _ same => by simp at same
  entered := fun _ _ _ same => by simp at same

/-- Where a list with one more at its end is cut: at the end, or before it. -/
theorem append_singleton_cases {α : Type*} {list before after : List α} {last middle : α}
    (same : list ++ [last] = before ++ middle :: after) :
    (list = before ∧ last = middle ∧ after = []) ∨
      ∃ shorter, after = shorter ++ [last] ∧ list = before ++ middle :: shorter := by
  -- By whether anything follows the middle.
  cases after using List.reverseRecOn with
  | nil =>
    obtain ⟨lists, lasts⟩ := List.append_inj' same rfl
    exact .inl ⟨lists, List.head_eq_of_cons_eq lasts, rfl⟩
  | append_singleton shorter final =>
    rw [← List.cons_append, ← List.append_assoc] at same
    obtain ⟨lists, lasts⟩ := List.append_inj' same rfl
    obtain rfl := List.head_eq_of_cons_eq lasts
    exact .inr ⟨shorter, rfl, lists⟩

/-- After an entry, it is open, and so is what was open before. -/
theorem openAs_enter :
    OpenAs (visits ++ [.enter other mode]) place kind ↔
      (place = other ∧ kind = mode) ∨ OpenAs visits place kind := by
  -- The last entry is the new one, or an older one that the new one comes after.
  constructor
  · rintro ⟨earlier, between, same, stays⟩
    obtain ⟨-, last, -⟩ | ⟨shorter, rfl, rfl⟩ := append_singleton_cases same
    · cases last
      exact .inl ⟨rfl, rfl⟩
    · exact .inr ⟨earlier, shorter, rfl, fun left => stays (List.mem_append_left _ left)⟩
  · rintro (⟨rfl, rfl⟩ | ⟨earlier, between, rfl, stays⟩)
    · exact ⟨visits, [], rfl, List.not_mem_nil⟩
    · exact ⟨earlier, between ++ [.enter other mode], by simp, by simpa using stays⟩

/-- A place may be entered where no other is open. -/
theorem matched_enter :
    Matched (visits ++ [.enter place kind]) ↔
      Matched visits ∧ ∀ other, Open visits other → other = place := by
  constructor
  · intro matched
    refine ⟨⟨?_, ?_⟩, ?_⟩
    · rintro before one first between other mode after rfl
      exact matched.left_first before one first between other mode (after ++ [.enter place kind]) (by simp)
    · rintro before left after rfl
      exact matched.entered before left (after ++ [.enter place kind]) (by simp)
    · rintro other ⟨first, earlier, between, rfl, stays⟩
      -- Another place that is open would have to be left before the new entry.
      by_contra elsewhere
      exact stays (matched.left_first earlier other first between place kind [] rfl (Ne.symm elsewhere))
  · rintro ⟨matched, alone⟩
    refine ⟨?_, ?_⟩
    · intro before one first between other mode after same elsewhere
      obtain ⟨rfl, last, -⟩ | ⟨shorter, -, rfl⟩ := append_singleton_cases same
      · -- The second entry is the new one, so the place of the first is open no more.
        cases last
        by_contra stays
        exact elsewhere (alone one ⟨first, before, between, rfl, stays⟩).symm
      · exact matched.left_first before one first between other mode shorter rfl elsewhere
    · intro before left after same
      obtain ⟨-, last, -⟩ | ⟨shorter, -, rfl⟩ := append_singleton_cases same
      · cases last
      · exact matched.entered before left shorter rfl

/-- A place may be left where it is open. -/
theorem matched_leave : Matched (visits ++ [.leave place]) ↔ Matched visits ∧ Open visits place := by
  constructor
  · intro matched
    refine ⟨⟨?_, ?_⟩, matched.entered visits place [] rfl⟩
    · rintro before one first between other mode after rfl
      exact matched.left_first before one first between other mode (after ++ [.leave place]) (by simp)
    · rintro before left after rfl
      exact matched.entered before left (after ++ [.leave place]) (by simp)
  · rintro ⟨matched, stays⟩
    refine ⟨?_, ?_⟩
    · intro before one first between other mode after same elsewhere
      obtain ⟨-, last, -⟩ | ⟨shorter, -, rfl⟩ := append_singleton_cases same
      · cases last
      · exact matched.left_first before one first between other mode shorter rfl elsewhere
    · intro before left after same
      obtain ⟨rfl, last, -⟩ | ⟨shorter, -, rfl⟩ := append_singleton_cases same
      · -- The exit at the end is the new one.
        cases last
        exact stays
      · exact matched.entered before left shorter rfl

end Visit

end Freight
