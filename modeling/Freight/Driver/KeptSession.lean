import Freight.Driver.TwoRefreshers

/-! Exactly when the app keeps its session, and what becomes of it once the service has taken the token. -/

namespace Freight.Driver.Session

/--
The condition on an event: only the app exchanges the token it holds, unless an exchange of its own is under way;
no such exchange is cut off once it has cost the app its token; and the app is not started from a store that is behind.
-/
def Careful (pool : Pool Handset RefreshCall) : PoolEvent Refresher Bool HandsetEvent → Prop
  | .run index false => ∀ call ∈ pool.calls[index]?, ∀ who token, call = .rotate who token →
    who ≠ .app pool.shared.appStart → pool.shared.presented = some token →
      ∃ other ∈ pool.calls, other.brings pool.shared
  -- An exchange is cut off only while the token it presented is still taken.
  | .run index true | .stop index => ∀ call ∈ pool.calls[index]?, call.brings pool.shared →
    ∀ token, pool.shared.presented = some token → token ∈ pool.shared.live
  -- The cache is gone then, and the store is what is presented.
  | .outside .restart => ∀ token, pool.shared.stored = some token → token ∈ pool.shared.live
  | .outside .hydrate => ∀ token, pool.shared.stored = some token →
    token ∈ pool.shared.live ∨ ∃ call ∈ pool.calls, call.brings pool.shared
  | _ => True

/-- What the secure store holds beside a token is no longer taken. -/
def Handset.Behind (phone : Handset) (token : Nat) : Prop :=
  ∀ held, phone.stored = some held → held = token ∨ held ∉ phone.live

/-- What it holds is no longer taken at all. -/
def Handset.Spent (phone : Handset) : Prop := ∀ held, phone.stored = some held → held ∉ phone.live

/-- How far the phone has come with an exchange of the app's. -/
def RefreshCall.Sound (phone : Handset) : RefreshCall → Prop
  | .readStored who => who = .app phone.appStart → phone.presented = phone.stored
  | .validate who token => who = .app phone.appStart → phone.presented = some token ∧ phone.Behind token
  | .readUser who token | .rotate who token => who = .app phone.appStart → phone.Behind token
  | .issue who _ | .answered who (some _) => who = .app phone.appStart → phone.Spent
  -- The app's own exchange is not refused.
  | .answered who none => who ≠ .app phone.appStart
  | .store who token => who = .app phone.appStart ∧ phone.cache = some token ∧ phone.Spent
  | .clear _ => False
  | .asking _ | .hand _ | .done => True

/-- What careful events keep. -/
structure Going (phone : Handset) (calls : List RefreshCall) : Prop where
  rotating : Rotating phone calls
  exclusive : handsetSystem.Exclusive calls
  spared : Spared phone calls
  sound : ∀ call ∈ calls, call.Sound phone
  /-- The secure store is behind the cache, or agrees with it. -/
  behind : ∀ token, phone.cache = some token → phone.Behind token
  /-- The secure store has never been cleared. -/
  holds : phone.stored ≠ none

/-- An exchange is asked for in the name of who asks. -/
theorem ask_holds {phone : Handset} {who other : Refresher} (held : other ∈ (who.ask phone).holds) : other = who := by
  -- With a token to present it is asked for under the name, and without one it is over.
  cases who with
  | app start => cases cached : phone.cache <;> simp_all [Refresher.ask, RefreshCall.holds]
  | service number => cases preferred : phone.prefs <;> simp_all [Refresher.ask, RefreshCall.holds]

/-- A program comes to hold its turn only by waiting for it. -/
theorem handset_disciplined : handsetSystem.Disciplined where
  starts _ := rfl
  stops := rfl
  waits := by
    intro phone fails call who held
    have held : who ∈ (call.next phone fails).2.holds := held
    show who ∈ call.holds ∨ who ∈ handsetSystem.needs (call.next phone fails).1
    cases fails with
    | true => cases held
    | false =>
      cases call with
      -- The two refreshers wait for their turn where they begin.
      | asking other =>
        simp only [RefreshCall.next, Bool.false_eq_true, if_false] at held ⊢
        split at held
        · rename_i current
          rw [if_pos current]
          exact .inr (List.mem_singleton.mpr (ask_holds held))
        · cases held
      | readStored other =>
        simp only [RefreshCall.next, Bool.false_eq_true, if_false] at held
        split at held
        · split at held
          · exact .inl held
          · cases held
        · cases held
      -- From here to the answer the turn is neither taken nor passed on.
      | validate other token =>
        simp only [RefreshCall.next, Bool.false_eq_true, if_false] at held
        split at held <;> exact .inl held
      | readUser other token => exact .inl held
      | rotate other token => exact .inl held
      | issue other token => exact .inl held
      -- An answer is handed on inside the turn, or ends it.
      | answered other answer =>
        simp only [RefreshCall.next, Bool.false_eq_true, if_false] at held
        split at held
        · cases other <;> cases answer <;> first | exact .inl held | cases held
        · cases held
      | store other token =>
        simp only [RefreshCall.next, Bool.false_eq_true, if_false] at held
        split at held <;> cases held
      | hand token => cases held
      | clear other => cases held
      | done => cases held

section Steps

variable {phone later : Handset} {call next : RefreshCall} {others : List RefreshCall}

/-- Only an exchange of the app's brings it a token. -/
theorem RefreshCall.brings_holds (brings : call.brings phone) : .app phone.appStart ∈ call.holds := by
  -- An exchange brings a token only under its own turn, and the app's is the turn of this start.
  cases call with
  | readUser who token => exact List.mem_singleton.mpr (of_decide_eq_true brings).symm
  | rotate who token => exact List.mem_singleton.mpr (of_decide_eq_true brings).symm
  | issue who token => exact List.mem_singleton.mpr (of_decide_eq_true brings).symm
  | answered who answer =>
    cases answer with
    | none => cases brings
    | some token =>
      simp only [RefreshCall.brings, Bool.and_eq_true, decide_eq_true_eq] at brings
      exact List.mem_singleton.mpr brings.1.symm
  | _ => cases brings

/-- Beside one exchange of the app's there is no other. -/
theorem Going.alone (going : Going phone (call :: others)) (mine : .app phone.appStart ∈ call.holds) :
    ∀ other ∈ others, .app phone.appStart ∉ other.holds := fun other member =>
  (List.pairwise_cons.mp going.exclusive).1 other member _ mine

/-- While one is under way that brings nothing yet, the token is taken. -/
theorem Going.taken (going : Going phone (call :: others)) (mine : .app phone.appStart ∈ call.holds)
    (idle : call.brings phone = false) {token : Nat} (presented : phone.presented = some token) :
    token ∈ phone.live := by
  -- The token is taken, or on its way; what brings it would hold the app's turn, and one has that already.
  rcases going.spared token presented with taken | ⟨other, member, brings⟩
  · exact taken
  · rcases List.mem_cons.mp member with rfl | among
    · rw [idle] at brings
      cases brings
    · exact absurd (RefreshCall.brings_holds brings) (going.alone mine other among)

/-- What is known of an exchange that is not the app's stays so, whatever is done to the phone. -/
theorem RefreshCall.Sound.elsewhere (sound : call.Sound phone) (apart : .app phone.appStart ∉ call.holds)
    (same : later.appStart = phone.appStart) : call.Sound later := by
  -- All that is said of an exchange is said of the app's own, and this one is not.
  have never : ∀ who, who ∈ call.holds → who ≠ .app later.appStart := by
    intro who held equal
    rw [same] at equal
    exact apart (equal ▸ held)
  cases call with
  | readStored who => exact fun own => absurd own (never who List.mem_cons_self)
  | validate who token => exact fun own => absurd own (never who List.mem_cons_self)
  | readUser who token => exact fun own => absurd own (never who List.mem_cons_self)
  | rotate who token => exact fun own => absurd own (never who List.mem_cons_self)
  | issue who token => exact fun own => absurd own (never who List.mem_cons_self)
  | answered who answer =>
    cases answer with
    | none => exact never who List.mem_cons_self
    | some token => exact fun own => absurd own (never who List.mem_cons_self)
  | store who token => exact absurd (same ▸ sound.1) (never who List.mem_cons_self)
  | clear who => exact sound
  | asking who => trivial
  | hand token => trivial
  | done => trivial

/-- It stays so while the cache and the store stay, and no token in the store comes to be taken again. -/
theorem RefreshCall.Sound.kept (sound : call.Sound phone) (start : later.appStart = phone.appStart)
    (cache : later.cache = phone.cache) (stored : later.stored = phone.stored)
    (less : ∀ held, phone.stored = some held → held ∈ later.live → held ∈ phone.live) : call.Sound later := by
  -- Spent or behind, a token stays so: the store shows what it did, and less is taken.
  have behind : ∀ token, phone.Behind token → later.Behind token := by
    intro token behind held there
    rw [stored] at there
    exact (behind held there).imp_right fun gone taken => gone (less held there taken)
  have spent : phone.Spent → later.Spent := by
    intro spent held there taken
    rw [stored] at there
    exact spent held there (less held there taken)
  have presented : later.presented = phone.presented := by
    unfold Handset.presented
    rw [cache, stored]
  cases call with
  | readStored who =>
    intro own
    rw [start] at own
    rw [presented, stored]
    exact sound own
  | validate who token =>
    intro own
    rw [start] at own
    rw [presented]
    exact ⟨(sound own).1, behind token (sound own).2⟩
  | readUser who token => exact fun own => behind token (sound (own.trans (congrArg _ start)))
  | rotate who token => exact fun own => behind token (sound (own.trans (congrArg _ start)))
  -- What is revoked stays revoked, since no token comes to be taken again.
  | issue who token => exact fun own => spent (sound (own.trans (congrArg _ start)))
  | answered who answer =>
    cases answer with
    | none => exact fun own => sound (own.trans (congrArg _ start))
    | some token => exact fun own => spent (sound (own.trans (congrArg _ start)))
  -- What the store holds is spent, until the new token is written there.
  | store who token => exact ⟨sound.1.trans (congrArg _ start.symm), cache.trans sound.2.1, spent sound.2.2⟩
  | clear who => exact sound
  -- The others rely on nothing.
  | asking who => trivial
  | hand token => trivial
  | done => trivial

/-- The app is not being refused. -/
theorem Going.kept {calls : List RefreshCall} (going : Going phone calls) : SessionKept phone calls :=
  ⟨going.spared, fun member => going.sound _ member rfl⟩

/-- A step that leaves what is presented as it is, and the new tokens that are being brought. -/
theorem Spared.moves (spared : Spared phone (call :: others)) (presented : later.presented = phone.presented)
    (more : ∀ token, phone.presented = some token → token ∈ phone.live → token ∈ later.live)
    (brings : ∀ other ∈ others, other.brings phone → other.brings later)
    (mine : call.brings phone → next.brings later) : Spared later (next :: others) := by
  -- Either the token is taken, or another brings it, or it is this one that did and goes on doing so.
  intro token shown
  rw [presented] at shown
  rcases spared token shown with taken | ⟨other, member, bringing⟩
  · exact .inl (more token shown taken)
  · rcases List.mem_cons.mp member with rfl | among
    · exact .inr ⟨next, List.mem_cons_self, mine bringing⟩
    · exact .inr ⟨other, List.mem_cons_of_mem _ among, brings other among bringing⟩

/-- A step that leaves the cache and the store as they are. -/
theorem Going.beside (going : Going phone (call :: others)) (rotating : Rotating later (next :: others))
    (exclusive : handsetSystem.Exclusive (next :: others)) (start : later.appStart = phone.appStart)
    (cache : later.cache = phone.cache) (stored : later.stored = phone.stored)
    (less : ∀ held, phone.stored = some held → held ∈ later.live → held ∈ phone.live)
    (spared : Spared later (next :: others)) (sound : next.Sound later) : Going later (next :: others) := by
  -- The other exchanges are kept as they were, and what is cached is behind the store as before.
  refine ⟨rotating, exclusive, spared, List.forall_mem_cons.mpr ⟨sound, fun other member => ?_⟩,
    fun token held other there => ?_, stored ▸ going.holds⟩
  · exact (going.sound other (List.mem_cons_of_mem _ member)).kept start cache stored less
  · rw [cache] at held
    rw [stored] at there
    exact (going.behind token held other there).imp_right fun gone taken => gone (less other there taken)

/-- A step that leaves everything as it is. -/
theorem Going.quiet (going : Going phone (call :: others)) (rotating : Rotating phone (next :: others))
    (exclusive : handsetSystem.Exclusive (next :: others)) (mine : call.brings phone → next.brings phone)
    (sound : next.Sound phone) : Going phone (next :: others) :=
  going.beside rotating exclusive rfl rfl rfl (fun _ _ taken => taken)
    (going.spared.moves rfl (fun _ _ taken => taken) (fun _ _ brings => brings) mine) sound

/-- A step of an exchange that was bringing nothing, and changes nothing. -/
theorem Going.idle (going : Going phone (call :: others)) (rotating : Rotating phone (next :: others))
    (exclusive : handsetSystem.Exclusive (next :: others)) (idle : call.brings phone = false)
    (sound : next.Sound phone) : Going phone (next :: others) :=
  going.quiet rotating exclusive (fun bringing => absurd bringing (Bool.eq_false_iff.mp idle)) sound

/-- What is asked with is what is presented. -/
theorem Going.asks {who : Refresher} (going : Going phone (.asking who :: others)) : (who.ask phone).Sound phone := by
  -- The app reads its cache first, and its secure store where the cache is empty.
  cases who with
  | app start =>
    unfold Refresher.ask
    cases held : phone.cache with
    | some token =>
      refine fun _ => ⟨?_, going.behind token held⟩
      unfold Handset.presented
      rw [held]
      rfl
    | none =>
      intro _
      unfold Handset.presented
      rw [held]
      rfl
  | service number =>
    unfold Refresher.ask
    cases phone.prefs with
    | some token => exact nofun
    | none => trivial

/-- The token of an exchange is revoked: by the app, which is bringing another, or by one that is careful. -/
theorem Going.revokes {who : Refresher} {token : Nat} (going : Going phone (.rotate who token :: others))
    (rotating : Rotating ((RefreshStatement.revoke token).execute phone) (.issue who token :: others))
    (exclusive : handsetSystem.Exclusive (.issue who token :: others))
    (careful : who ≠ .app phone.appStart → phone.presented = some token → ∃ other ∈ others, other.brings phone) :
    Going ((RefreshStatement.revoke token).execute phone) (.issue who token :: others) := by
  have seen := going.rotating.known.first.seen token rfl
  -- What is being brought has not been seen, so it is not what is revoked.
  have brings : ∀ other ∈ others, other.brings phone → other.brings ((RefreshStatement.revoke token).execute phone) := by
    intro other member bringing
    cases other with
    | answered by_ answer =>
      cases answer with
      | none => cases bringing
      | some new =>
        have known := (going.rotating.known.tail.finds _ member).unseen new rfl
        simp only [RefreshCall.brings, Bool.and_eq_true, decide_eq_true_eq] at bringing ⊢
        exact ⟨bringing.1, List.mem_filter.mpr ⟨bringing.2, decide_eq_true fun same => known.2 (same ▸ seen)⟩⟩
    | _ => exact bringing
  have sound : (RefreshCall.issue who token).Sound ((RefreshStatement.revoke token).execute phone) := by
    intro own held there taken
    obtain ⟨still, other⟩ := List.mem_filter.mp taken
    rcases going.sound _ List.mem_cons_self own held there with same | gone
    · exact of_decide_eq_true other same
    · exact gone still
  refine going.beside rotating exclusive rfl rfl rfl (fun held _ taken => List.mem_of_mem_filter taken) ?_ sound
  -- The app brings the new one itself; anybody else has somebody beside that does.
  by_cases own : who = .app phone.appStart
  · exact fun _ _ => .inr ⟨_, List.mem_cons_self, decide_eq_true own⟩
  · intro shown presented
    rcases going.spared shown presented with taken | ⟨other, member, bringing⟩
    -- It is what is presented that is revoked, or something else.
    · by_cases same : shown = token
      · obtain ⟨other, among, bringing⟩ := careful own (same ▸ presented)
        exact .inr ⟨other, List.mem_cons_of_mem _ among, brings other among bringing⟩
      · exact .inl (List.mem_filter.mpr ⟨taken, decide_eq_true same⟩)
    · rcases List.mem_cons.mp member with rfl | among
      · exact absurd (of_decide_eq_true bringing) own
      · exact .inr ⟨other, List.mem_cons_of_mem _ among, brings other among bringing⟩

/-- A new token is issued: the store cannot hold it yet. -/
theorem Going.issues {who : Refresher} {token : Nat} (going : Going phone (.issue who token :: others))
    (rotating : Rotating (RefreshStatement.insert.execute phone) (.answered who (some phone.serial) :: others))
    (exclusive : handsetSystem.Exclusive (.answered who (some phone.serial) :: others)) :
    Going (RefreshStatement.insert.execute phone) (.answered who (some phone.serial) :: others) := by
  -- The serial has just been drawn, so the store, which holds older ones only, is no better off.
  have less : ∀ held, phone.stored = some held → held ∈ (RefreshStatement.insert.execute phone).live →
      held ∈ phone.live := by
    intro held there taken
    rcases List.mem_cons.mp taken with rfl | before
    · exact absurd (going.rotating.drawn _ (going.rotating.stored _ there)) (Nat.lt_irrefl _)
    · exact before
  refine going.beside rotating exclusive rfl rfl rfl less (going.spared.moves rfl
    (fun _ _ taken => List.mem_cons_of_mem _ taken) (fun other _ bringing => ?_) fun bringing => ?_) ?_
  · cases other with
    | answered by_ answer =>
      cases answer with
      | none => cases bringing
      | some new =>
        simp only [RefreshCall.brings, Bool.and_eq_true, decide_eq_true_eq] at bringing ⊢
        exact ⟨bringing.1, List.mem_cons_of_mem _ bringing.2⟩
    | _ => exact bringing
  · simp only [RefreshCall.brings, Bool.and_eq_true, decide_eq_true_eq] at bringing ⊢
    exact ⟨bringing, List.mem_cons_self⟩
  · exact fun own held there taken => going.sound _ List.mem_cons_self own held there (less held there taken)

/-- The app takes a new token for its own. -/
theorem Going.receives {token : Nat}
    (going : Going phone (.answered (.app phone.appStart) (some token) :: others))
    (rotating : Rotating ((RefreshStatement.setCache token).execute phone) (.store (.app phone.appStart) token :: others))
    (exclusive : handsetSystem.Exclusive (.store (.app phone.appStart) token :: others)) :
    Going ((RefreshStatement.setCache token).execute phone) (.store (.app phone.appStart) token :: others) := by
  -- What the app had presented is spent, and the one it now presents has only been issued to it.
  have spent : phone.Spent := going.sound _ List.mem_cons_self rfl
  have taken := (going.rotating.known.first.unseen token rfl).1
  refine ⟨rotating, exclusive, fun shown presented => ?_,
    List.forall_mem_cons.mpr ⟨⟨rfl, rfl, spent⟩, fun other member => ?_⟩, fun cached held other there => ?_,
    going.holds⟩
  · cases presented
    exact .inl taken
  · have apart := going.alone List.mem_cons_self other member
    exact (going.sound other (List.mem_cons_of_mem _ member)).elsewhere apart rfl
  · exact .inr (spent other there)

/-- The secure store catches up with the cache. -/
theorem Going.lands {who : Refresher} {token : Nat} (going : Going phone (.store who token :: others))
    (rotating : Rotating ((RefreshStatement.setStored token).execute phone) (next :: others))
    (exclusive : handsetSystem.Exclusive (next :: others)) (idle : ∀ later, next.Sound later) :
    Going ((RefreshStatement.setStored token).execute phone) (next :: others) := by
  -- The cache shows the token already, so what is presented is the same before and after.
  obtain ⟨own, cached, -⟩ := going.sound _ List.mem_cons_self
  subst own
  have presented : phone.presented = some token := by
    unfold Handset.presented
    rw [cached]
    rfl
  have shown : ((RefreshStatement.setStored token).execute phone).presented = some token := by
    show phone.cache.or (some token) = some token
    rw [cached]
    rfl
  refine ⟨rotating, exclusive, fun other held => ?_,
    List.forall_mem_cons.mpr ⟨idle _, fun other member => ?_⟩, fun other held => ?_, nofun⟩
  · cases shown.symm.trans held
    exact .inl (going.taken List.mem_cons_self rfl presented)
  · have apart := going.alone List.mem_cons_self other member
    exact (going.sound other (List.mem_cons_of_mem _ member)).elsewhere apart rfl
  · cases cached.symm.trans held
    exact fun held there => .inl (Option.some.inj there).symm

/-- What fails or stops was bringing nothing that is missed. -/
theorem Going.fails (going : Going phone (call :: others)) (exclusive : handsetSystem.Exclusive (.done :: others))
    (careful : call.brings phone → ∀ token, phone.presented = some token → token ∈ phone.live) :
    Going phone (.done :: others) := by
  refine going.beside going.rotating.over exclusive rfl rfl rfl (fun _ _ taken => taken) (fun token shown => ?_) trivial
  -- Where it was this one that brought the token, the care taken says it is still taken.
  rcases going.spared token shown with taken | ⟨other, member, bringing⟩
  · exact .inl taken
  · rcases List.mem_cons.mp member with rfl | among
    · exact .inl (careful bringing token shown)
    · exact .inr ⟨other, List.mem_cons_of_mem _ among, bringing⟩

/-- The order of the exchanges does not matter. -/
theorem Going.perm {calls calls' : List RefreshCall} (same : calls.Perm calls') (going : Going phone calls) :
    Going phone calls' where
  -- Each part is about the exchanges as a collection.
  rotating := rotating_keeps.perm same going.rotating
  exclusive := going.exclusive.perm same
  spared token shown := (going.spared token shown).imp_right fun ⟨other, member, bringing⟩ =>
    ⟨other, same.mem_iff.mp member, bringing⟩
  sound other member := going.sound other (same.mem_iff.mpr member)
  behind := going.behind
  holds := going.holds

end Steps

/-- A step of an exchange that works, under the condition on it. -/
theorem Going.proceeds {pool : Pool Handset RefreshCall} {index : Nat} {call : RefreshCall} {others : List RefreshCall}
    (taken : handsetSystem.Taken pool index false call others) (going : Going pool.shared (call :: others))
    (careful : Careful pool (.run index false)) :
    Going ((call.next pool.shared false).1.execute pool.shared) ((call.next pool.shared false).2 :: others) := by
  have rotating : Rotating ((call.next pool.shared false).1.execute pool.shared)
      ((call.next pool.shared false).2 :: others) := rotating_keeps.moves taken going.rotating trivial
  have exclusive : handsetSystem.Exclusive ((call.next pool.shared false).2 :: others) :=
    handset_disciplined.exclusive_keeps.moves taken going.exclusive trivial
  cases call with
  -- Whoever is not the running one gives up at once.
  | asking who =>
    by_cases current : who.current pool.shared
    · simp only [RefreshCall.next, Bool.false_eq_true, if_false, if_pos current] at rotating exclusive ⊢
      exact going.idle rotating exclusive rfl going.asks
    · simp only [RefreshCall.next, Bool.false_eq_true, if_false, if_neg current] at rotating exclusive ⊢
      exact going.idle rotating exclusive rfl trivial
  -- The token to exchange is read from the store, which holds one as long as the session goes on.
  | readStored who =>
    simp only [RefreshCall.next, Bool.false_eq_true, if_false] at rotating exclusive ⊢
    cases held : pool.shared.stored with
    | none =>
      rw [held] at rotating exclusive
      exact going.idle rotating exclusive rfl trivial
    | some token =>
      rw [held] at rotating exclusive
      by_cases current : who.current pool.shared
      · simp only [if_pos current] at rotating exclusive ⊢
        refine going.idle rotating exclusive rfl fun own => ⟨?_, fun other there => .inl ?_⟩
        · exact (going.sound _ List.mem_cons_self own).trans held
        · exact Option.some.inj (there.symm.trans held)
      · simp only [if_neg current] at rotating exclusive ⊢
        exact going.idle rotating exclusive rfl trivial
  -- The server looks the token up before it revokes it.
  | validate who token =>
    by_cases taken : token ∈ pool.shared.live
    · simp only [RefreshCall.next, Bool.false_eq_true, if_false, if_pos taken] at rotating exclusive ⊢
      exact going.idle rotating exclusive rfl fun own => (going.sound _ List.mem_cons_self own).2
    · simp only [RefreshCall.next, Bool.false_eq_true, if_false, if_neg taken] at rotating exclusive ⊢
      -- The app's own is not refused: its token is still the one that is presented, and nothing else brings another.
      refine going.idle rotating exclusive rfl fun own => taken ?_
      exact going.taken (List.mem_singleton.mpr own.symm) rfl (going.sound _ List.mem_cons_self own).1
  | readUser who token =>
    exact going.quiet rotating exclusive (fun bringing => bringing) fun own => going.sound _ List.mem_cons_self own
  | rotate who token =>
    refine going.revokes rotating exclusive fun other presented => ?_
    obtain ⟨bringer, member, bringing⟩ := careful _ taken.found who token rfl other presented
    rcases List.mem_cons.mp (taken.all.mem_iff.mp member) with rfl | among
    · exact absurd (of_decide_eq_true bringing) other
    · exact ⟨bringer, among, bringing⟩
  | issue who token => exact going.issues rotating exclusive
  -- The app stores what it is answered; an older start of it no longer listens.
  | answered who answer =>
    by_cases current : who.current pool.shared
    · simp only [RefreshCall.next, Bool.false_eq_true, if_false, if_pos current] at rotating exclusive ⊢
      cases who with
      | app start =>
        obtain rfl : start = pool.shared.appStart := of_decide_eq_true current
        cases answer with
        | some token => exact going.receives rotating exclusive
        | none => exact absurd rfl (going.sound _ List.mem_cons_self)
      | service number =>
        cases answer with
        | some token =>
          exact going.beside rotating exclusive rfl rfl rfl (fun _ _ taken => taken) (going.spared.moves rfl
            (fun _ _ taken => taken) (fun _ _ bringing => bringing) fun bringing => by
              simp [RefreshCall.brings] at bringing) trivial
        | none => exact going.idle rotating exclusive rfl trivial
    · simp only [RefreshCall.next, Bool.false_eq_true, if_false, if_neg current] at rotating exclusive ⊢
      refine going.quiet rotating exclusive (fun bringing => ?_) trivial
      have own := RefreshCall.brings_holds bringing
      cases List.mem_singleton.mp own
      exact absurd (decide_eq_true rfl) current
  -- The store comes to hold what is presented.
  | store who token =>
    by_cases current : who.current pool.shared
    · simp only [RefreshCall.next, Bool.false_eq_true, if_false, if_pos current] at rotating exclusive ⊢
      exact going.lands rotating exclusive fun _ => trivial
    · simp only [RefreshCall.next, Bool.false_eq_true, if_false, if_neg current] at rotating exclusive ⊢
      exact going.lands rotating exclusive fun _ => trivial
  | hand token =>
    exact going.beside rotating exclusive rfl rfl rfl (fun _ _ taken => taken) (going.spared.moves rfl
      (fun _ _ taken => taken) (fun _ _ bringing => bringing) fun bringing => absurd bringing Bool.false_ne_true) trivial
  | clear who => exact absurd (going.sound _ List.mem_cons_self) id
  | done => exact going

/-- The app is started again, from a store that is not behind. -/
theorem Going.restarts {phone : Handset} {calls : List RefreshCall} (going : Going phone calls)
    (rotating : Rotating (HandsetEvent.restart.happen phone) calls)
    (taken : ∀ token, phone.stored = some token → token ∈ phone.live) :
    Going (HandsetEvent.restart.happen phone) calls := by
  -- What was asked for before is not the app's any more.
  have older : ∀ call ∈ calls, .app (phone.appStart + 1) ∉ call.holds := fun call member held =>
    absurd ((going.rotating.known.finds call member).dated _ held) (Nat.not_succ_le_self _)
  refine ⟨rotating, going.exclusive, fun token shown => .inl (taken token shown), fun call member => ?_, nofun,
    going.holds⟩
  have apart := older call member
  have sound := going.sound call member
  have never : ∀ who, who ∈ call.holds → who ≠ .app (phone.appStart + 1) := fun who held own => apart (own ▸ held)
  cases call with
  | readStored who => exact fun own => absurd own (never who List.mem_cons_self)
  | validate who token => exact fun own => absurd own (never who List.mem_cons_self)
  | readUser who token => exact fun own => absurd own (never who List.mem_cons_self)
  | rotate who token => exact fun own => absurd own (never who List.mem_cons_self)
  | issue who token => exact fun own => absurd own (never who List.mem_cons_self)
  | answered who answer =>
    cases answer with
    | none => exact never who List.mem_cons_self
    | some token => exact fun own => absurd own (never who List.mem_cons_self)
  | store who token =>
    -- While a token is being stored, what is in the store is spent.
    obtain ⟨-, -, spent⟩ := sound
    obtain ⟨held, there⟩ := Option.ne_none_iff_exists'.mp going.holds
    exact absurd (taken held there) (spent held there)
  | clear who => exact sound
  | asking who => trivial
  | hand token => trivial
  | done => trivial

/-- The cache is filled from the store again, which is not behind unless a new token is being brought. -/
theorem Going.hydrates {phone : Handset} {calls : List RefreshCall} (going : Going phone calls)
    (rotating : Rotating (HandsetEvent.hydrate.happen phone) calls)
    (careful : ∀ token, phone.stored = some token → token ∈ phone.live ∨ ∃ call ∈ calls, call.brings phone) :
    Going (HandsetEvent.hydrate.happen phone) calls := by
  have presented : (HandsetEvent.hydrate.happen phone).presented = phone.stored := Option.or_self
  -- Beside an exchange of the app's that brings nothing yet, the store is not behind.
  have taken : ∀ call ∈ calls, .app phone.appStart ∈ call.holds → call.brings phone = false →
      ∀ token, phone.stored = some token → token ∈ phone.live := by
    intro call member mine idle token there
    rcases careful token there with taken | ⟨other, among, bringing⟩
    · exact taken
    · obtain ⟨front, back, split⟩ := List.append_of_mem member
      have first : calls.Perm (call :: (front ++ back)) := split ▸ List.perm_middle
      rcases List.mem_cons.mp (first.mem_iff.mp among) with rfl | beside
      · rw [idle] at bringing
        cases bringing
      · exact absurd (RefreshCall.brings_holds bringing) ((going.perm first).alone mine other beside)
  refine ⟨rotating, going.exclusive, fun token shown => careful token (presented.symm.trans shown),
    fun call member => ?_, fun token held other there => .inl (Option.some.inj (there.symm.trans held)), going.holds⟩
  have sound := going.sound call member
  cases call with
  -- One call after the other: what it relies on holds of the store.
  | readStored who => exact fun _ => presented
  | validate who token =>
    intro own
    obtain ⟨-, behind⟩ := sound own
    obtain ⟨held, there⟩ := Option.ne_none_iff_exists'.mp going.holds
    have still := taken _ member (List.mem_singleton.mpr own.symm) rfl held there
    obtain rfl : held = token := (behind held there).resolve_right fun gone => gone still
    exact ⟨presented.trans there, behind⟩
  -- What the store holds would be spent and taken at once, so no exchange is about to write there.
  | store who token =>
    obtain ⟨own, -, spent⟩ := sound
    obtain ⟨held, there⟩ := Option.ne_none_iff_exists'.mp going.holds
    exact absurd (taken _ member (List.mem_singleton.mpr own.symm) rfl held there) (spent held there)
  -- What was answered does not depend on the cache.
  | answered who answer =>
    cases answer with
    | none => exact sound
    | some token => exact sound
  | _ => exact sound

/-- Careful events keep the session going. -/
theorem going_keeps : handsetSystem.Keeps Going Careful where
  perm := Going.perm
  moves := by
    intro pool index fails call others taken going careful
    -- A step that works goes on; one that fails ends the exchange, and that is where care is asked.
    cases fails with
    | false => exact going.proceeds taken careful
    | true =>
      have exclusive := handset_disciplined.exclusive_keeps.moves taken going.exclusive trivial
      exact going.fails exclusive (careful call taken.found)
  arrives := by
    intro pool who going _
    refine ⟨rotating_keeps.arrives going.rotating trivial,
      handset_disciplined.exclusive_keeps.arrives going.exclusive trivial, fun token shown => ?_,
      List.forall_mem_cons.mpr ⟨trivial, going.sound⟩, going.behind, going.holds⟩
    exact (going.spared token shown).imp_right fun ⟨call, member, bringing⟩ =>
      ⟨call, List.mem_cons_of_mem _ member, bringing⟩
  stops := by
    intro pool index call others found going careful
    have exclusive := handset_disciplined.exclusive_keeps.stops found going.exclusive trivial
    exact going.fails exclusive (careful call found)
  happens := by
    intro pool event going careful free
    have rotating := rotating_keeps.happens going.rotating trivial free
    cases event with
    -- The app is started anew, reads its cache, or the service comes and goes beside it.
    | restart => exact going.restarts rotating careful
    | hydrate => exact going.hydrates rotating careful
    | startService =>
      exact ⟨rotating, going.exclusive, going.spared,
        fun call member => (going.sound call member).kept rfl rfl rfl fun _ _ taken => taken, going.behind, going.holds⟩
    | stopService =>
      exact ⟨rotating, going.exclusive, going.spared,
        fun call member => (going.sound call member).kept rfl rfl rfl fun _ _ taken => taken, going.behind, going.holds⟩

/-- Where the session is still kept after an event, the event was careful. -/
theorem careful_of_kept (pool : Pool Handset RefreshCall) (event : PoolEvent Refresher Bool HandsetEvent)
    (going : Going pool.shared pool.calls)
    (kept : SessionKept (handsetSystem.step pool event).shared (handsetSystem.step pool event).calls) : Careful pool event := by
  -- The exchange that takes the step is brought to the front.
  have front : ∀ {index call}, pool.calls[index]? = some call →
      pool.calls.Perm (call :: pool.calls.eraseIdx index) ∧
        ∀ next : RefreshCall, (pool.calls.set index next).Perm (next :: pool.calls.eraseIdx index) := by
    intro index call found
    obtain ⟨within, same⟩ := List.getElem?_eq_some_iff.mp found
    refine ⟨?_, fun next => List.set_perm_cons_eraseIdx within next⟩
    rw [← same]
    exact (List.getElem_cons_eraseIdx_perm within).symm
  -- One that was bringing a token was the only one, and after it none is.
  have gone : ∀ {index call}, pool.calls[index]? = some call → SessionKept pool.shared (pool.calls.set index .done) →
      call.brings pool.shared → ∀ token, pool.shared.presented = some token → token ∈ pool.shared.live := by
    intro index call found kept bringing token shown
    obtain ⟨all, after⟩ := front found
    rcases kept.spared token shown with taken | ⟨other, member, also⟩
    · exact taken
    · rcases List.mem_cons.mp ((after .done).mem_iff.mp member) with rfl | among
      · cases also
      · exact absurd (RefreshCall.brings_holds also)
          ((going.perm all).alone (RefreshCall.brings_holds bringing) other among)
  have free : handsetSystem.Free [] pool.calls := fun _ _ _ needed => absurd needed List.not_mem_nil
  cases event with
  | call who => trivial
  | stop index => exact fun call found => gone found kept
  | run index fails =>
    cases fails with
    | true =>
      intro call found
      rw [handsetSystem.step_lockless rfl found] at kept
      exact gone found kept
    | false =>
      rintro _ found who token rfl other presented
      rw [handsetSystem.step_lockless rfl found] at kept
      obtain ⟨all, after⟩ := front found
      rcases kept.spared token presented with taken | ⟨bringer, member, bringing⟩
      · exact absurd rfl (of_decide_eq_true (List.mem_filter.mp taken).2)
      · rcases List.mem_cons.mp ((after _).mem_iff.mp member) with rfl | among
        · exact absurd (of_decide_eq_true bringing) other
        · refine ⟨bringer, all.mem_iff.mpr (List.mem_cons_of_mem _ among), ?_⟩
          cases bringer with
          | answered by_ answer =>
            cases answer with
            | none => cases bringing
            | some new =>
              simp only [RefreshCall.brings, Bool.and_eq_true, decide_eq_true_eq] at bringing ⊢
              exact ⟨bringing.1, List.mem_of_mem_filter bringing.2⟩
          | _ => exact bringing
  | outside event =>
    have happened : handsetSystem.step pool (.outside event) = { pool with shared := event.happen pool.shared } :=
      if_pos free
    rw [happened] at kept
    cases event with
    | restart =>
      intro token there
      rcases kept.spared token there with taken | ⟨call, member, bringing⟩
      · exact taken
      · have held := RefreshCall.brings_holds bringing
        exact absurd ((going.rotating.known.finds call member).dated _ held) (Nat.not_succ_le_self _)
    | hydrate => exact fun token there => kept.spared token (Option.or_self.trans there)
    | startService => trivial
    | stopService => trivial

/--
The app keeps its session exactly while events are careful: whatever else is lost, refused, killed or started again,
of the app's exchanges and of the service's.
-/
theorem kept_iff (events : List (PoolEvent Refresher Bool HandsetEvent)) :
    Throughout handsetSystem.step (fun pool => SessionKept pool.shared pool.calls) ⟨{}, []⟩ events ↔
      Along handsetSystem.step Careful ⟨{}, []⟩ events := by
  -- At the start the token of the sign-in is cached, stored and taken, and nothing is under way.
  have rotating : Rotating {} [] := by
    refine ⟨.nil, ?_, ?_, ?_, ?_, ?_⟩ <;> simp
  have initial : Going {} [] := by
    refine ⟨rotating, .nil, fun token shown => .inl ?_, nofun, fun token held other there => .inl ?_, nofun⟩
    · cases shown
      exact List.mem_cons_self
    · exact Option.some.inj (there.symm.trans held)
  exact @throughout_iff_of_invariant (Pool Handset RefreshCall) _ handsetSystem.step
    (fun pool => Going pool.shared pool.calls) _ _ (fun _ going => going.kept) careful_of_kept
    (fun pool event => going_keeps.step pool event) ⟨{}, []⟩ events initial

/-- An exchange that brings the app nothing any more. -/
def RefreshCall.Doomed (phone : Handset) : RefreshCall → Prop
  | .validate (.app _) token => token ∉ phone.live
  | .readUser (.app _) _ | .rotate (.app _) _ | .issue (.app _) _ | .answered (.app _) (some _) | .store _ _ => False
  | _ => True

/-- The app has lost its session: no token it holds is taken, and none is on its way. -/
structure Lost (phone : Handset) (calls : List RefreshCall) : Prop where
  cache : ∀ token, phone.cache = some token → token ∉ phone.live
  stored : ∀ token, phone.stored = some token → token ∉ phone.live
  doomed : ∀ call ∈ calls, call.Doomed phone

section

variable {phone later : Handset} {call next : RefreshCall} {others calls : List RefreshCall}

/-- A step after which nothing that has been seen is taken again, and the app holds nothing new. -/
theorem Lost.moves (lost : Lost phone calls) (rotating : Rotating phone calls)
    (less : ∀ token ∈ phone.delivered, token ∈ later.live → token ∈ phone.live)
    (cache : ∀ token, later.cache = some token → phone.cache = some token ∨ phone.stored = some token)
    (stored : ∀ token, later.stored = some token → phone.stored = some token) : Lost later calls := by
  -- All that is cached or stored later was so before, and was not taken then.
  refine ⟨fun token held taken => ?_, fun token held taken => ?_, fun call member => ?_⟩
  · rcases cache token held with cached | there
    · exact lost.cache token cached (less token (rotating.cache token cached) taken)
    · exact lost.stored token there (less token (rotating.stored token there) taken)
  · have there := stored token held
    exact lost.stored token there (less token (rotating.stored token there) taken)
  · have doomed := lost.doomed call member
    cases call with
    | validate who token =>
      cases who with
      | app start =>
        have seen := (rotating.known.finds _ member).seen token rfl
        exact fun taken => doomed (less token seen taken)
      | service number => trivial
    | readUser who token => cases who <;> exact doomed
    | rotate who token => cases who <;> exact doomed
    | issue who token => cases who <;> exact doomed
    | answered who answer => cases who <;> cases answer <;> exact doomed
    | _ => exact doomed

/-- What the service is given is not the app's. -/
theorem Lost.prefers (lost : Lost phone calls) (rotating : Rotating phone calls) (token : Nat) :
    Lost ((RefreshStatement.setPrefs token).execute phone) calls :=
  lost.moves rotating (fun _ _ taken => taken) (fun _ held => .inl held) fun _ held => held

/-- An exchange goes on in the same way. -/
theorem Lost.goes (lost : Lost phone (call :: others)) (own : next.Doomed phone) : Lost phone (next :: others) :=
  ⟨lost.cache, lost.stored, List.forall_mem_cons.mpr ⟨own, (List.forall_mem_cons.mp lost.doomed).2⟩⟩

/-- What is asked with is not taken. -/
theorem Lost.asks (lost : Lost phone calls) (who : Refresher) : (who.ask phone).Doomed phone := by
  -- The app asks with what it holds, which is lost; the service asks with its own copy.
  cases who with
  | app start =>
    unfold Refresher.ask
    cases held : phone.cache with
    | some token => exact lost.cache token held
    | none => trivial
  | service number =>
    unfold Refresher.ask
    cases phone.prefs <;> trivial

/-- A step of an exchange that works brings nothing back. -/
theorem Lost.proceeds (lost : Lost phone (call :: others)) (rotating : Rotating phone (call :: others)) :
    Lost ((call.next phone false).1.execute phone) ((call.next phone false).2 :: others) := by
  -- Each exchange in turn: nothing is answered to the app but to a token that is taken, and none is.
  have own := lost.doomed call List.mem_cons_self
  cases call with
  -- It asks for its turn, and has read nothing yet.
  | asking who =>
    by_cases current : who.current phone
    · simp only [RefreshCall.next, Bool.false_eq_true, if_false, if_pos current]
      exact lost.goes (lost.asks who)
    · simp only [RefreshCall.next, Bool.false_eq_true, if_false, if_neg current]
      exact lost.goes trivial
  | readStored who =>
    simp only [RefreshCall.next, Bool.false_eq_true, if_false]
    cases held : phone.stored with
    | none => exact lost.goes trivial
    | some token =>
      by_cases current : who.current phone
      · simp only [if_pos current]
        have doomed : (RefreshCall.validate who token).Doomed phone := by
          cases who with
          | app start => exact lost.stored token held
          | service number => trivial
        exact lost.goes doomed
      · simp only [if_neg current]
        exact lost.goes trivial
  -- The server does not know the app's token, and refuses.
  | validate who token =>
    cases who with
    | app start =>
      simp only [RefreshCall.next, Bool.false_eq_true, if_false]
      rw [if_neg own]
      exact lost.goes trivial
    | service number =>
      by_cases taken : token ∈ phone.live
      · simp only [RefreshCall.next, Bool.false_eq_true, if_false, if_pos taken]
        exact lost.goes trivial
      · simp only [RefreshCall.next, Bool.false_eq_true, if_false, if_neg taken]
        exact lost.goes trivial
  | readUser who token =>
    cases who with
    | app start => exact own.elim
    | service number => exact lost.goes trivial
  -- Only the service can be past that check, with a token of its own.
  | rotate who token =>
    cases who with
    | app start => exact own.elim
    | service number =>
      have revoked : Lost ((RefreshStatement.revoke token).execute phone) (.rotate (.service number) token :: others) :=
        lost.moves rotating (fun _ _ taken => List.mem_of_mem_filter taken) (fun _ held => .inl held) fun _ held => held
      exact revoked.goes trivial
  | issue who token =>
    cases who with
    | app start => exact own.elim
    | service number =>
      have issued : Lost (RefreshStatement.insert.execute phone) (.issue (.service number) token :: others) := by
        refine lost.moves rotating (fun other seen taken => ?_) (fun _ held => .inl held) fun _ held => held
        rcases List.mem_cons.mp taken with rfl | before
        · exact absurd (rotating.drawn _ seen) (Nat.lt_irrefl _)
        · exact before
      exact issued.goes trivial
  -- The app is answered nothing, so that its session ends.
  | answered who answer =>
    by_cases current : who.current phone
    · simp only [RefreshCall.next, Bool.false_eq_true, if_false, if_pos current]
      cases who with
      | app start =>
        cases answer with
        | some token => exact own.elim
        | none =>
          have cleared : Lost (RefreshStatement.clearCache.execute phone) (.answered (.app start) none :: others) :=
            lost.moves rotating (fun _ _ taken => taken) (fun _ held => by cases held) fun _ held => held
          exact cleared.goes trivial
      | service number =>
        cases answer with
        | some token => exact (lost.prefers rotating token).goes trivial
        | none => exact lost.goes trivial
    · simp only [RefreshCall.next, Bool.false_eq_true, if_false, if_neg current]
      exact lost.goes trivial
  | store who token => exact own.elim
  | hand token => exact (lost.prefers rotating token).goes trivial
  -- The store is emptied, and nothing is in it that could be exchanged.
  | clear who =>
    have cleared : Lost (RefreshStatement.clearStored.execute phone) (.clear who :: others) :=
      lost.moves rotating (fun _ _ taken => taken) (fun _ held => .inl held) (fun _ held => by cases held)
    exact cleared.goes trivial
  | done => exact lost

end

/-- Nothing that happens brings a lost session back. -/
theorem lost_keeps : handsetSystem.Keeps (fun phone calls => Rotating phone calls ∧ Lost phone calls)
    fun _ _ => True where
  -- Each kind of event has its lemma above.
  perm same := by
    rintro ⟨rotating, lost⟩
    exact ⟨rotating_keeps.perm same rotating,
      ⟨lost.cache, lost.stored, fun call member => lost.doomed call (same.mem_iff.mpr member)⟩⟩
  moves := by
    intro pool index fails call others taken both _
    obtain ⟨rotating, lost⟩ := both
    refine ⟨rotating_keeps.moves taken rotating trivial, ?_⟩
    cases fails with
    | false => exact lost.proceeds rotating
    | true => exact lost.goes trivial
  arrives := by
    intro pool who both _
    obtain ⟨rotating, lost⟩ := both
    exact ⟨rotating_keeps.arrives rotating trivial,
      ⟨lost.cache, lost.stored, List.forall_mem_cons.mpr ⟨trivial, lost.doomed⟩⟩⟩
  stops := by
    intro pool index call others found both _
    exact ⟨rotating_keeps.stops found both.1 trivial, both.2.goes trivial⟩
  happens := by
    intro pool event both _ free
    obtain ⟨rotating, lost⟩ := both
    refine ⟨rotating_keeps.happens rotating trivial free, ?_⟩
    cases event with
    | restart => exact lost.moves rotating (fun _ _ taken => taken) nofun fun _ held => held
    | hydrate => exact lost.moves rotating (fun _ _ taken => taken) (fun _ held => .inr held) fun _ held => held
    | startService => exact lost.moves rotating (fun _ _ taken => taken) (fun _ held => .inl held) fun _ held => held
    | stopService => exact lost.moves rotating (fun _ _ taken => taken) (fun _ held => .inl held) fun _ held => held

/--
A session that is lost stays so until the driver signs in again: whatever the app goes on to ask, no exchange of its
own brings it a token, and it never again holds one that is taken.
-/
theorem lost_for_good (before after : List (PoolEvent Refresher Bool HandsetEvent))
    (lost : Lost (run handsetSystem.step ⟨{}, []⟩ before).shared (run handsetSystem.step ⟨{}, []⟩ before).calls) :
    Throughout handsetSystem.step (fun pool =>
      (∀ token, pool.shared.presented = some token → token ∉ pool.shared.live) ∧
        ∀ start token, .answered (.app start) (some token) ∉ pool.calls)
      (run handsetSystem.step ⟨{}, []⟩ before) after := by
  -- What is known of the tokens seen holds in every run, and so where the session is found lost.
  have initial : Rotating {} [] := by
    refine ⟨.nil, ?_, ?_, ?_, ?_, ?_⟩ <;> simp
  have rotating := (@CallSystem.Keeps.throughout _ _ _ _ _ _ _ _ _ _ _ rotating_keeps ⟨{}, []⟩ before initial
    (along_of_forall (fun _ _ => trivial) _ _)).last
  have still := lost_keeps.throughout ⟨rotating, lost⟩ (along_of_forall (fun _ _ => trivial) _ after)
  refine still.mono fun pool both => ⟨fun token shown => ?_, fun start token member => ?_⟩
  · rcases Option.or_eq_some_iff.mp shown with cached | ⟨-, there⟩
    · exact both.2.cache token cached
    · exact both.2.stored token there
  · exact both.2.doomed _ member

/-- The service exchanges the token once, with the app closed; the next thing the app asks signs the driver out. -/
theorem lost_for_good_service :
    let before := [.call (.service 0), .run 0 false, .run 0 false, .run 0 false, .run 0 false, .run 0 false,
      .run 0 false]
    let after := [.outside .restart, .outside .hydrate, .call (.app 1), .run 1 false, .run 1 false, .run 1 false,
      .run 1 false]
    let left := run handsetSystem.step ⟨{}, []⟩ before
    Throughout handsetSystem.step (fun pool =>
        (∀ token, pool.shared.presented = some token → token ∉ pool.shared.live) ∧
          ∀ start token, .answered (.app start) (some token) ∉ pool.calls) left after ∧
      left.shared.prefs = some 1 ∧ (run handsetSystem.step left after).shared.stored = none := by
  refine ⟨lost_for_good _ _ ⟨?_, ?_, ?_⟩, rfl, rfl⟩
  · intro token held
    cases held
    decide
  · intro token held
    cases held
    decide
  · intro call member
    rw [List.mem_singleton.mp member]
    trivial

end Freight.Driver.Session
