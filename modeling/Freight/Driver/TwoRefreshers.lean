import Freight.Driver.Refreshers
import Freight.Library.Reserve

/-! When the app keeps its session although the location service exchanges the same refresh token. -/

namespace Freight.Driver.Session

/-- The token a new one of is on its way to nobody else. -/
def RefreshCall.bears : RefreshCall → Option Nat
  | .answered _ token => token
  | _ => none

/-- The token a call works with, once it has reached the phone. -/
def RefreshCall.token : RefreshCall → Option Nat
  | .validate _ token | .readUser _ token | .rotate _ token | .issue _ token | .store _ token | .hand token =>
    some token
  | _ => none

/-- What is known of one exchange, whatever happens. -/
structure RefreshCall.Known (phone : Handset) (call : RefreshCall) : Prop where
  /-- A new token is taken, and nobody has seen it. -/
  unseen : ∀ token ∈ call.bears, token ∈ phone.live ∧ token ∉ phone.delivered
  seen : ∀ token ∈ call.token, token ∈ phone.delivered
  /-- The app asked since its first start. -/
  dated : ∀ start, .app start ∈ call.holds → start ≤ phone.appStart

/-- What every interleaving keeps. -/
structure Rotating (phone : Handset) (calls : List RefreshCall) : Prop where
  known : Reserved RefreshCall.bears RefreshCall.Known phone calls
  numbered : ∀ token ∈ phone.live, token < phone.serial
  drawn : ∀ token ∈ phone.delivered, token < phone.serial
  cache : ∀ token, phone.cache = some token → token ∈ phone.delivered
  stored : ∀ token, phone.stored = some token → token ∈ phone.delivered
  prefs : ∀ token, phone.prefs = some token → token ∈ phone.delivered

section Steps

variable {phone : Handset} {call next : RefreshCall} {others : List RefreshCall} {who : Refresher} {token : Nat}

/-- An exchange that bears nothing, works with what the phone has seen, and is asked for by who already asked. -/
theorem RefreshCall.Known.idle (bears : call.bears = none) (seen : ∀ token ∈ call.token, token ∈ phone.delivered)
    (dated : ∀ start, .app start ∈ call.holds → start ≤ phone.appStart) : call.Known phone :=
  { unseen := fun _ borne => absurd borne (by rw [bears]; exact nofun), seen := seen, dated := dated }

/-- A step that leaves the phone and the server alone, and bears nothing. -/
theorem Rotating.quiet (rotating : Rotating phone (call :: others)) (bears : next.bears = none)
    (seen : ∀ token ∈ next.token, token ∈ phone.delivered)
    (dated : ∀ start, .app start ∈ next.holds → start ≤ phone.appStart) : Rotating phone (next :: others) :=
  ⟨rotating.known.lets_go (.idle bears seen dated) bears fun _ _ known => known, rotating.numbered, rotating.drawn,
    rotating.cache, rotating.stored, rotating.prefs⟩

/-- What is asked with has been seen. -/
theorem Rotating.asks (rotating : Rotating phone (.asking who :: others)) (current : who.current phone) :
    Rotating phone (who.ask phone :: others) := by
  -- The app asks with its cache or its store, the service with its preferences: all have been seen.
  cases who with
  | app start =>
    have dated : start ≤ phone.appStart := Nat.le_of_eq (of_decide_eq_true current)
    unfold Refresher.ask
    cases held : phone.cache with
    | none =>
      refine rotating.quiet rfl nofun fun other mine => ?_
      cases List.mem_singleton.mp mine
      exact dated
    | some token =>
      refine rotating.quiet rfl (fun other mine => ?_) fun other mine => ?_
      · cases mine
        exact rotating.cache token held
      · cases List.mem_singleton.mp mine
        exact dated
  | service number =>
    unfold Refresher.ask
    cases held : phone.prefs with
    | none => exact rotating.quiet rfl nofun nofun
    | some token =>
      refine rotating.quiet rfl (fun other mine => ?_) fun other mine => ?_
      · cases mine
        exact rotating.prefs token held
      · cases List.mem_singleton.mp mine

/-- A token that has been seen is revoked. -/
theorem Rotating.revokes (rotating : Rotating phone (.rotate who token :: others)) :
    Rotating ((RefreshStatement.revoke token).execute phone) (.issue who token :: others) := by
  have mine := rotating.known.first
  have seen := mine.seen token rfl
  refine ⟨rotating.known.lets_go ⟨nofun, mine.seen, mine.dated⟩ rfl fun other _ known => ?_,
    fun other listed => rotating.numbered other (List.mem_of_mem_filter listed), rotating.drawn, rotating.cache,
    rotating.stored, rotating.prefs⟩
  refine ⟨fun new borne => ?_, known.seen, known.dated⟩
  -- What is on its way is not what was revoked, which has been seen.
  obtain ⟨taken, unseen⟩ := known.unseen new borne
  refine ⟨List.mem_filter.mpr ⟨taken, decide_eq_true fun same => unseen (same ▸ seen)⟩, unseen⟩

/-- A new token is nobody's yet. -/
theorem Rotating.issues (rotating : Rotating phone (.issue who token :: others)) :
    Rotating (RefreshStatement.insert.execute phone) (.answered who (some phone.serial) :: others) := by
  have mine := rotating.known.first
  have fresh : phone.serial ∉ phone.delivered := fun seen => Nat.lt_irrefl _ (rotating.drawn _ seen)
  -- The number is beyond every one drawn so far, and the next is beyond it.
  refine ⟨rotating.known.moves ⟨fun new borne => ?_, nofun, mine.dated⟩ (fun other _ known => ?_) fun new borne => ?_,
    fun other listed => ?_, fun other seen => Nat.lt_succ_of_lt (rotating.drawn other seen), rotating.cache,
    rotating.stored, rotating.prefs⟩
  · cases borne
    exact ⟨List.mem_cons_self, fresh⟩
  · exact ⟨fun new borne => ⟨List.mem_cons_of_mem _ (known.unseen new borne).1, (known.unseen new borne).2⟩,
      known.seen, known.dated⟩
  · cases borne
    refine .inr fun other member borne => ?_
    exact Nat.lt_irrefl _ (rotating.numbered _ ((rotating.known.tail.finds other member).unseen _ borne).1)
  · rcases List.mem_cons.mp listed with rfl | before
    · exact Nat.lt_succ_self _
    · exact Nat.lt_succ_of_lt (rotating.numbered other before)

/-- A new token arrives, and others on their way are other tokens. -/
theorem Rotating.arrives (rotating : Rotating phone (.answered who (some token) :: others)) {cache prefs : Option Nat}
    (cached : cache = phone.cache ∨ cache = some token) (preferred : prefs = phone.prefs ∨ prefs = some token)
    (bears : next.bears = none) (own : ∀ other ∈ next.token, other = token)
    (dated : ∀ start, .app start ∈ next.holds → .app start ∈ [who]) :
    Rotating { phone with cache := cache, prefs := prefs, delivered := token :: phone.delivered } (next :: others) := by
  have mine := rotating.known.first
  have known : (next : RefreshCall).Known
      { phone with cache := cache, prefs := prefs, delivered := token :: phone.delivered } :=
    .idle bears (fun other works => own other works ▸ List.mem_cons_self)
      fun start held => mine.dated start (dated start held)
  -- No other exchange bears it, so what the others bear is still unseen.
  refine ⟨rotating.known.lets_go known bears fun other apart known => ?_, rotating.numbered, fun other seen => ?_,
    fun other held => ?_, fun other held => List.mem_cons_of_mem _ (rotating.stored other held),
    fun other held => ?_⟩
  · refine ⟨fun new borne => ⟨(known.unseen new borne).1, fun seen => ?_⟩,
      fun seen works => List.mem_cons_of_mem _ (known.seen seen works), known.dated⟩
    rcases List.mem_cons.mp seen with rfl | before
    · exact apart new rfl borne
    · exact (known.unseen new borne).2 before
  · rcases List.mem_cons.mp seen with rfl | before
    · exact rotating.numbered other (mine.unseen other rfl).1
    · exact rotating.drawn other before
  · rcases cached with same | new
    · exact List.mem_cons_of_mem _ (rotating.cache other (same ▸ held))
    · cases new.symm.trans held
      exact List.mem_cons_self
  · rcases preferred with same | new
    · exact List.mem_cons_of_mem _ (rotating.prefs other (same ▸ held))
    · cases new.symm.trans held
      exact List.mem_cons_self

/-- Tokens that have been seen are put elsewhere on the phone, or taken away. -/
theorem Rotating.rearranged {later : Handset} {calls : List RefreshCall} (rotating : Rotating phone calls)
    (live : later.live = phone.live) (serial : later.serial = phone.serial)
    (seen : ∀ token, token ∈ later.delivered ↔ token ∈ phone.delivered) (start : phone.appStart ≤ later.appStart)
    (cache : ∀ token, later.cache = some token → token ∈ phone.delivered)
    (stored : ∀ token, later.stored = some token → token ∈ phone.delivered)
    (prefs : ∀ token, later.prefs = some token → token ∈ phone.delivered) : Rotating later calls := by
  -- Where a token lies says nothing of whether it has been seen.
  refine ⟨rotating.known.spare fun call _ known => ?_, ?_, ?_, fun token held => (seen token).mpr (cache token held),
    fun token held => (seen token).mpr (stored token held), fun token held => (seen token).mpr (prefs token held)⟩
  · refine ⟨fun new borne => ?_, fun token works => (seen token).mpr (known.seen token works),
      fun other asked => Nat.le_trans (known.dated other asked) start⟩
    rw [live, seen]
    exact known.unseen new borne
  · rw [live, serial]
    exact rotating.numbered
  · intro token listed
    rw [serial]
    exact rotating.drawn token ((seen token).mp listed)

/-- A call that is over. -/
theorem Rotating.over (rotating : Rotating phone (call :: others)) : Rotating phone (.done :: others) :=
  rotating.quiet rfl nofun nofun

/-- What the app does with an answer, and what the service does. -/
theorem Rotating.receives {answer : Option Nat} (rotating : Rotating phone (.answered who answer :: others)) :
    Rotating ((who.receive answer).1.execute phone) ((who.receive answer).2 :: others) := by
  -- A token is taken in; no token is an answer too, and leaves what was held.
  have dated := rotating.known.first.dated
  cases who with
  | app start =>
    cases answer with
    | some token =>
      refine rotating.arrives (.inr rfl) (.inl rfl) rfl (fun other works => ?_) fun other held => held
      cases works
      rfl
    | none =>
      have clearing : Rotating phone (.clear (.app start) :: others) := rotating.quiet rfl nofun dated
      exact clearing.rearranged rfl rfl (fun _ => .rfl) (Nat.le_refl _) nofun rotating.stored rotating.prefs
  | service number =>
    cases answer with
    | some token => exact rotating.arrives (.inl rfl) (.inr rfl) rfl nofun nofun
    | none => exact rotating.over

/-- A write that lands, in the secure store or in the preferences. -/
theorem Rotating.lands (rotating : Rotating phone (call :: others)) (works : token ∈ call.token) :
    Rotating ((RefreshStatement.setStored token).execute phone) (call :: others) ∧
      Rotating ((RefreshStatement.setPrefs token).execute phone) (call :: others) := by
  -- The token was seen when it arrived, so either write only rearranges.
  have seen := rotating.known.first.seen token works
  have own : ∀ other, some token = some other → other ∈ phone.delivered := fun other same =>
    Option.some.inj same ▸ seen
  refine ⟨rotating.rearranged rfl rfl (fun _ => .rfl) (Nat.le_refl _) rotating.cache own rotating.prefs,
    rotating.rearranged rfl rfl (fun other => ?_) (Nat.le_refl _) rotating.cache rotating.stored own⟩
  refine ⟨fun listed => ?_, List.mem_cons_of_mem _⟩
  rcases List.mem_cons.mp listed with rfl | before
  · exact seen
  · exact before

end Steps

/-- Every interleaving keeps it. -/
theorem rotating_keeps : handsetSystem.Keeps Rotating fun _ _ => True where
  perm same rotating := ⟨rotating.known.perm same, rotating.numbered, rotating.drawn, rotating.cache, rotating.stored,
    rotating.prefs⟩
  moves := by
    intro pool index fails call others taken rotating _
    show Rotating ((call.next pool.shared fails).1.execute pool.shared) ((call.next pool.shared fails).2 :: others)
    have known := rotating.known.first
    -- What fails is over, and bears nothing any more.
    cases fails with
    | true => exact rotating.over
    -- What works takes the token one station on.
    | false =>
      cases call with
      | asking who =>
        by_cases current : who.current pool.shared
        · simp only [RefreshCall.next, Bool.false_eq_true, if_false, if_pos current]
          exact rotating.asks current
        · simp only [RefreshCall.next, Bool.false_eq_true, if_false, if_neg current]
          exact rotating.over
      | readStored who =>
        simp only [RefreshCall.next, Bool.false_eq_true, if_false]
        cases held : pool.shared.stored with
        | none => exact rotating.over
        | some token =>
          by_cases current : who.current pool.shared
          · simp only [if_pos current]
            refine rotating.quiet rfl (fun other works => ?_) known.dated
            cases works
            exact rotating.stored token held
          · simp only [if_neg current]
            exact rotating.over
      | validate who token =>
        by_cases taken : token ∈ pool.shared.live
        · simp only [RefreshCall.next, Bool.false_eq_true, if_false, if_pos taken]
          exact rotating.quiet rfl known.seen known.dated
        · simp only [RefreshCall.next, Bool.false_eq_true, if_false, if_neg taken]
          exact rotating.quiet rfl nofun known.dated
      | readUser who token => exact rotating.quiet rfl known.seen known.dated
      -- Here the old token goes, and the new one is drawn next.
      | rotate who token => exact rotating.revokes
      | issue who token => exact rotating.issues
      | answered who answer =>
        by_cases current : who.current pool.shared
        · simp only [RefreshCall.next, Bool.false_eq_true, if_false, if_pos current]
          exact rotating.receives
        · simp only [RefreshCall.next, Bool.false_eq_true, if_false, if_neg current]
          exact rotating.over
      -- The new token has come home, whoever asked for it.
      | store who token =>
        have landed := (rotating.lands rfl).1
        by_cases current : who.current pool.shared
        · simp only [RefreshCall.next, Bool.false_eq_true, if_false, if_pos current]
          exact landed.quiet rfl known.seen nofun
        · simp only [RefreshCall.next, Bool.false_eq_true, if_false, if_neg current]
          exact landed.over
      | hand token => exact (rotating.lands rfl).2.over
      | clear who =>
        exact rotating.over.rearranged rfl rfl (fun _ => .rfl) (Nat.le_refl _) rotating.cache nofun nofun
      | done => exact rotating
  arrives := by
    intro pool who rotating _
    exact ⟨rotating.known.cons_idle (.idle rfl nofun nofun) rfl, rotating.numbered, rotating.drawn, rotating.cache,
      rotating.stored, rotating.prefs⟩
  stops := by
    intro pool index call others _ rotating _
    exact rotating.over
  happens := by
    intro pool event rotating _ _
    cases event with
    -- The app forgets its cache or reads it again, and the service begins or ends.
    | restart =>
      exact rotating.rearranged rfl rfl (fun _ => .rfl) (Nat.le_succ _) nofun rotating.stored rotating.prefs
    | hydrate =>
      exact rotating.rearranged rfl rfl (fun _ => .rfl) (Nat.le_refl _) rotating.stored rotating.stored rotating.prefs
    | startService =>
      refine rotating.rearranged rfl rfl (fun _ => .rfl) (Nat.le_refl _) rotating.cache rotating.stored fun token held => ?_
      rcases Option.or_eq_some_iff.mp held with cached | ⟨-, preferred⟩
      · exact rotating.cache token cached
      · exact rotating.prefs token preferred
    | stopService =>
      exact rotating.rearranged rfl rfl (fun _ => .rfl) (Nat.le_refl _) rotating.cache rotating.stored nofun

end Freight.Driver.Session
