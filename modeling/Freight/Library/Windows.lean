import Mathlib.Data.List.Chain
import Mathlib.Data.List.Pairwise
import Mathlib.Order.Interval.Finset.Nat

/-! Hits that are counted in windows of one width, each opened by the first hit behind the end of the last one. -/

namespace Freight

/-- A hit, with what it leaves of its window. -/
structure Hit where
  time : Nat
  /-- How many hits its window has taken, this one included. -/
  count : Nat
  /-- The last moment of its window. -/
  closes : Nat
  deriving DecidableEq

namespace Hit

variable {width most : Nat}

/-- A hit that opens a window. -/
def Opens (width : Nat) (hit : Hit) : Prop := hit.count = 1 ∧ hit.closes = hit.time + width

/-- The hit after another: in the window of that one while it lasts, and behind it in a window of its own. -/
def Follows (width : Nat) (one next : Hit) : Prop :=
  one.time ≤ next.time ∧
    if one.closes < next.time then next.Opens width
    else next.count = one.count + 1 ∧ next.closes = one.closes

/-- A later hit: counted behind another in its window, or in a window that begins behind the end of that one. -/
def Behind (width : Nat) (one later : Hit) : Prop :=
  one.closes = later.closes ∧ one.count < later.count ∨ one.closes + width < later.closes

/-- A hit falls into its window. -/
def Within (width : Nat) (hit : Hit) : Prop :=
  hit.time ≤ hit.closes ∧ hit.closes ≤ hit.time + width ∧ 1 ≤ hit.count

/-- The next hit is a later one. -/
theorem Follows.behind {one next : Hit} (follows : Follows width one next) : Behind width one next := by
  obtain ⟨-, follows⟩ := follows
  split at follows
  · -- It opens a window of its own, behind the end of the last.
    rename_i past
    obtain ⟨-, closes⟩ := follows
    exact .inr (by omega)
  · obtain ⟨counted, same⟩ := follows
    exact .inl ⟨same.symm, by omega⟩

/-- The next hit falls into its window, where the one before did. -/
theorem Follows.within {one next : Hit} (follows : Follows width one next) (within : one.Within width) :
    next.Within width := by
  -- It opens a new window after the old one, or counts on in the old one.
  obtain ⟨ordered, follows⟩ := follows
  obtain ⟨-, bounded, -⟩ := within
  split at follows
  · obtain ⟨counted, closes⟩ := follows
    exact ⟨by omega, by omega, by omega⟩
  · obtain ⟨counted, same⟩ := follows
    exact ⟨by omega, by omega, by omega⟩

/-- A hit that is not the first of its window is in the window of the one before. -/
theorem Follows.stays {one next : Hit} (follows : Follows width one next) (later : next.count ≠ 1) :
    next.closes = one.closes := by
  -- Were the window another, the count would begin again.
  obtain ⟨-, follows⟩ := follows
  split at follows
  · exact absurd follows.1 later
  · exact follows.2

/-- What is later than something later is later. -/
theorem Behind.trans {one other last : Hit} (first : Behind width one other) (second : Behind width other last) :
    Behind width one last := by
  -- Count by count within a life, and time by time between lives.
  unfold Behind at *
  omega

instance : Trans (Behind width) (Behind width) (Behind width) := ⟨Behind.trans⟩

end Hit

/-- Hits in the order they came, each counted in its window. -/
structure Windowed (width : Nat) (hits : List Hit) : Prop where
  first : ∀ hit ∈ hits.head?, hit.Opens width
  follows : hits.IsChain (Hit.Follows width)

namespace Windowed

variable {width most : Nat} {hits : List Hit}

/-- There is nothing to count yet. -/
theorem nil : Windowed width [] := ⟨by simp, .nil⟩

/-- A hit may be added that opens a window where there was none, and follows the last one where there was. -/
theorem concat (windowed : Windowed width hits) {hit : Hit} (opens : hits = [] → hit.Opens width)
    (follows : ∀ last ∈ hits.getLast?, Hit.Follows width last hit) : Windowed width (hits ++ [hit]) where
  -- The first hit stays the first, unless there was none.
  first := by
    cases hits with
    | nil => simpa using opens rfl
    | cons one rest => simpa using windowed.first
  follows := windowed.follows.append (.singleton hit) (by simpa using follows)

/-- Every hit falls into its window. -/
theorem within (windowed : Windowed width hits) : ∀ hit ∈ hits, hit.Within width := by
  -- The first hit opens a window, and from there on one hit follows the other.
  refine List.IsChain.induction (Hit.Within width) hits windowed.follows (fun _ _ follows => follows.within) ?_
  intro some
  obtain ⟨counted, closes⟩ := windowed.first (hits.head some) (List.head_mem_head? some)
  exact ⟨by omega, by omega, by omega⟩

/-- Every hit is later than those before it. -/
theorem behind (windowed : Windowed width hits) : hits.Pairwise (Hit.Behind width) :=
  (windowed.follows.imp fun _ _ follows => follows.behind).pairwise

end Windowed

section Bounds

variable {width most : Nat} {hits : List Hit}

/-- Hits that are counted upwards, and none above a bound, are no more than it. -/
theorem length_le_of_counted (counted : hits.Pairwise fun one later => one.count < later.count)
    (within : ∀ hit ∈ hits, 1 ≤ hit.count ∧ hit.count ≤ most) : hits.length ≤ most := by
  -- No two have the same count, and there are only so many counts.
  have distinct : (hits.map Hit.count).Nodup :=
    List.pairwise_map.mpr (counted.imp fun less => Nat.ne_of_lt less)
  have among : (hits.map Hit.count).toFinset ⊆ Finset.Icc 1 most := by
    intro count member
    obtain ⟨hit, listed, rfl⟩ := List.mem_map.mp (List.mem_toFinset.mp member)
    exact Finset.mem_Icc.mpr (within hit listed)
  calc hits.length = (hits.map Hit.count).toFinset.card := by
        rw [List.toFinset_card_of_nodup distinct, List.length_map]
    _ ≤ (Finset.Icc 1 most).card := Finset.card_le_card among
    _ = most := by rw [Nat.card_Icc, Nat.add_sub_cancel]

/-- Of hits whose windows are no further apart than one, no more are counted up to a bound than the bound. -/
theorem length_le_of_near (behind : hits.Pairwise (Hit.Behind width)) (within : ∀ hit ∈ hits, hit.Within width)
    (near : ∀ one ∈ hits, ∀ later ∈ hits, later.closes ≤ one.closes + width)
    (upTo : ∀ hit ∈ hits, hit.count ≤ most) : hits.length ≤ most := by
  -- So near each other, a later hit is in the same window and counted behind.
  refine length_le_of_counted (behind.imp_of_mem fun {one later} member listed behind => ?_)
    fun hit member => ⟨(within hit member).2.2, upTo hit member⟩
  have close := near one member later listed
  unfold Hit.Behind at behind
  omega

/-- From one opening of a window to the next, no more hits are counted up to a bound than the bound. -/
theorem Windowed.stretch (windowed : Windowed width hits) {before rest after : List Hit} {first : Hit}
    (all : hits = before ++ first :: rest ++ after) (stays : ∀ hit ∈ rest, hit.count ≠ 1) :
    ((first :: rest).filter fun hit => hit.count ≤ most).length ≤ most := by
  have part : (first :: rest) <:+: hits := ⟨before, after, all.symm⟩
  -- The window never changes, since a hit that opens one is the first it counts.
  have chained : (first :: rest).IsChain fun one next => next.closes = one.closes :=
    ( List.IsChain.infix windowed.follows part).imp_of_mem_tail_imp fun one next _ listed follows =>
      follows.stays (stays next listed)
  have same : ∀ hit ∈ first :: rest, hit.closes = first.closes :=
    List.IsChain.induction (fun hit => hit.closes = first.closes) _ chained
      (fun _ _ kept before => kept.trans before) fun _ => rfl
  refine length_le_of_near ((windowed.behind.sublist part.sublist).filter _)
    (fun hit member => windowed.within hit (part.subset (List.mem_of_mem_filter member))) ?_ ?_
  · intro one member later listed
    rw [same one (List.mem_of_mem_filter member), same later (List.mem_of_mem_filter listed)]
    exact Nat.le_add_right _ _
  · intro hit member
    exact of_decide_eq_true (List.mem_filter.mp member).2

/-- Any interval as long as a window meets two of them at most. -/
theorem Windowed.interval (windowed : Windowed width hits) (start : Nat) :
    (hits.filter fun hit => hit.count ≤ most && start ≤ hit.time && hit.time ≤ start + width).length ≤ 2 * most := by
  set inside := hits.filter fun hit => hit.count ≤ most && start ≤ hit.time && hit.time ≤ start + width with filtered
  have meets : ∀ hit ∈ inside, hit.Within width ∧ hit.count ≤ most ∧ start ≤ hit.time ∧ hit.time ≤ start + width := by
    intro hit member
    obtain ⟨listed, passes⟩ := List.mem_filter.mp member
    exact ⟨windowed.within hit listed, by simpa [and_assoc] using passes⟩
  have behind : inside.Pairwise (Hit.Behind width) := windowed.behind.filter _
  -- A window that ends in the interval is the first it meets, and one that ends behind it the second.
  have early : (inside.filter fun hit => hit.closes ≤ start + width).length ≤ most := by
    refine length_le_of_near (behind.filter _) (fun hit member => (meets hit (List.mem_of_mem_filter member)).1) ?_
      fun hit member => (meets hit (List.mem_of_mem_filter member)).2.1
    intro one member later listed
    obtain ⟨⟨closes, -⟩, -, from_, -⟩ := meets one (List.mem_of_mem_filter member)
    have ends := of_decide_eq_true (List.mem_filter.mp listed).2
    omega
  have late : (inside.filter fun hit => !decide (hit.closes ≤ start + width)).length ≤ most := by
    refine length_le_of_near (behind.filter _) (fun hit member => (meets hit (List.mem_of_mem_filter member)).1) ?_
      fun hit member => (meets hit (List.mem_of_mem_filter member)).2.1
    intro one member later listed
    obtain ⟨⟨-, closes, -⟩, -, -, until_⟩ := meets later (List.mem_of_mem_filter listed)
    have ends := (List.mem_filter.mp member).2
    simp only [Bool.not_eq_true', decide_eq_false_iff_not] at ends
    omega
  calc inside.length = (inside.filter fun hit => hit.closes ≤ start + width).length +
        (inside.filter fun hit => !decide (hit.closes ≤ start + width)).length :=
        List.length_eq_length_filter_add _
    _ ≤ most + most := Nat.add_le_add early late
    _ = 2 * most := (Nat.two_mul most).symm

end Bounds

end Freight
