import Freight.Auth.Otp

/-! How many guesses a one-time code withstands, however the requests interleave. -/

namespace Freight.Auth

/-- The wrong codes that were compared with the one under an id. -/
def guesses (notes : List OtpNote) (id : Nat) : Nat :=
  notes.countP fun note => note = .compared id false

/-- No code was guessed at too often, and none verified once it was consumed or locked out. -/
structure Withstands (store : OtpStore) : Prop where
  few : ∀ id, guesses store.notes id ≤ otpMaxAttempts
  once : ∀ id, .verified id true ∉ store.notes

/-- No statement of the event fails at the database. -/
def Served : OtpEvent → Prop
  | .run _ answer => answer.fails = false
  | _ => True

instance : DecidablePred Served
  | .run _ answer => inferInstanceAs (Decidable (answer.fails = false))
  | .call _ | .stop _ | .outside _ => inferInstanceAs (Decidable True)

/-- What a comparison was let through on still holds: its guess can be counted, or its code consumed. -/
def OtpCall.InTime (ext : OtpExternals) (store : OtpStore) : OtpCall → Prop
  | .compare _ code row => row.refusal store.now = none → ∀ stored ∈ store.codes.find? row.id,
      if ext.hashCode code = row.codeHash then stored.spent = false else stored.locked = false
  | _ => True

instance (ext : OtpExternals) (store : OtpStore) : DecidablePred (OtpCall.InTime ext store)
  | .compare _ _ _ => inferInstanceAs (Decidable (_ → _))
  | .findDriver _ | .issue _ | .recordSms _ _ _ | .findCode _ _ | .readDriver _ | .done _ =>
    inferInstanceAs (Decidable True)

/--
What was read of a code still holds when it is compared with.

A call that passed the guards on the row it read counts its guess while the row is not locked, and consumes the
code while it is not spent: no other call has counted or consumed in between.
-/
def Timely (ext : OtpExternals) (pool : OtpPool) : OtpEvent → Prop
  | .run index _ => ∀ call ∈ pool.calls[index]?, call.InTime ext pool.shared
  | _ => True

instance (ext : OtpExternals) (pool : OtpPool) : DecidablePred (Timely ext pool)
  | .run index _ => inferInstanceAs (Decidable (∀ call ∈ pool.calls[index]?, _))
  | .call _ | .stop _ | .outside _ => inferInstanceAs (Decidable True)

/-- The attempts on record for a code. -/
def attemptsOf (codes : Table OtpCode OtpCode.id) (id : Nat) : Nat :=
  ((codes.find? id).map OtpCode.attempts).getD 0

/-- What a statement writes down. -/
def OtpStatement.noted (store : OtpStore) : OtpStatement → List OtpNote
  | .countAttempt id _ => [.compared id false]
  | .consume id fails =>
    .compared id true :: if fails then [] else [.verified id ((store.codes.find? id).any OtpCode.spent)]
  | _ => []

section
variable {ext : OtpExternals} {store : OtpStore} {statement : OtpStatement}

/-- Every statement adds its notes at the end. -/
theorem execute_notes : (statement.execute store).notes = store.notes ++ statement.noted store := by
  -- What a statement notes is written out beside what it does to the rows.
  cases statement with
  | consume id fails => cases fails <;> rfl
  | select => exact (List.append_nil _).symm
  | none => exact (List.append_nil _).symm
  | insertCode phone codeHash expiresAt => exact (List.append_nil _).symm
  | recordSms id status => exact (List.append_nil _).symm
  | countAttempt id fails => rfl

/-- The guesses of two stretches add up. -/
theorem guesses_append (notes more : List OtpNote) (id : Nat) :
    guesses (notes ++ more) id = guesses notes id + guesses more id :=
  List.countP_append

/-- A change that leaves the attempts alone is not seen in them. -/
theorem attemptsOf_update {codes : Table OtpCode OtpCode.id} {id : Nat} {change : OtpCode → OtpCode}
    (keeps : ∀ row, (change row).id = row.id) (same : ∀ row, (change row).attempts = row.attempts) (other : Nat) :
    attemptsOf (codes.update id change keeps) other = attemptsOf codes other := by
  -- Only the row that changes is looked up otherwise, and its attempts are the same.
  unfold attemptsOf
  rw [Table.find?_update]
  split
  · rw [Option.map_map]
    congr 1
    cases codes.find? other with
    | none => rfl
    | some row => exact congrArg some (same row)
  · rfl

/-- A new code has no attempts, and the others keep theirs. -/
theorem attemptsOf_insert {codes : Table OtpCode OtpCode.id} {row : Nat → OtpCode}
    (own : ∀ id, (row id).id = id) (fresh : ∀ id, (row id).attempts = 0) (other : Nat) :
    attemptsOf (codes.insert row own) other = attemptsOf codes other := by
  unfold attemptsOf
  cases before : codes.find? other with
  | some old => rw [Table.find?_insert_of_some before]
  | none =>
    cases after : (codes.insert row own).find? other with
    | none => rfl
    | some found =>
      -- The only row that can be new is the inserted one.
      rcases Table.find?_insert_cases after with old | ⟨-, rfl⟩
      · cases before.symm.trans old
      · exact fresh _

/-- The rows that are found stay found. -/
theorem find?_execute {id : Nat} {row : OtpCode} (found : store.codes.find? id = some row) :
    ∃ later, (statement.execute store).codes.find? id = some later := by
  cases statement with
  | select => exact ⟨row, found⟩
  | none => exact ⟨row, found⟩
  | insertCode phone codeHash expiresAt => exact ⟨row, Table.find?_insert_of_some found⟩
  | recordSms other status =>
    simp only [OtpStatement.execute, Table.find?_update, found]
    split
    · exact ⟨_, rfl⟩
    · exact ⟨_, rfl⟩
  | countAttempt other fails =>
    -- An UPDATE that fails writes nothing, and one that works rewrites a row in place.
    cases fails with
    | true => exact ⟨row, found⟩
    | false =>
      simp only [OtpStatement.execute, Bool.false_eq_true, if_false, Table.find?_update, found]
      split
      · exact ⟨_, rfl⟩
      · exact ⟨_, rfl⟩
  | consume other fails =>
    cases fails with
    | true => exact ⟨row, found⟩
    | false =>
      simp only [OtpStatement.execute, Bool.false_eq_true, if_false, Table.find?_update, found]
      split
      · exact ⟨_, rfl⟩
      · exact ⟨_, rfl⟩

/-- A statement that does not fail counts every guess it writes down, where the code is there. -/
theorem attemptsOf_execute (id : Nat)
    (counted : ∀ other fails, statement = .countAttempt other fails →
      fails = false ∧ ∃ row, store.codes.find? other = some row) :
    attemptsOf (statement.execute store).codes id = attemptsOf store.codes id + guesses (statement.noted store) id := by
  cases statement with
  | select => rfl
  | none => rfl
  | insertCode phone codeHash expiresAt => exact attemptsOf_insert (fun _ => rfl) (fun _ => rfl) id
  | recordSms other status =>
    exact @attemptsOf_update store.codes other (fun row => { row with smsStatus := some status })
      (fun _ => rfl) (fun _ => rfl) id
  | consume other fails =>
    -- Consuming a code writes down no wrong guess.
    have none_ : guesses ((OtpStatement.consume other fails).noted store) id = 0 := by
      cases fails <;> simp [guesses, OtpStatement.noted]
    rw [none_]
    cases fails with
    | true => rfl
    | false =>
      exact @attemptsOf_update store.codes other (fun row => { row with consumedAt := some store.now })
        (fun _ => rfl) (fun _ => rfl) id
  | countAttempt other fails =>
    obtain ⟨rfl, row, found⟩ := counted other fails rfl
    simp only [OtpStatement.execute, Bool.false_eq_true, if_false, attemptsOf, Table.find?_update,
      OtpStatement.noted]
    by_cases same : id = other
    · -- The guess is counted against the code that was guessed at.
      subst same
      simp [found, guesses]
    · -- The guesses at another code are left as they are.
      have apart : ¬ other = id := fun eq => same eq.symm
      simp [same, apart, guesses]

/-- Only a comparison counts a guess or consumes a code, and it does so as the comparison turned out. -/
theorem next_compares {answer : OtpAnswer} {call : OtpCall} {id : Nat} {fails : Bool}
    (writes : (call.next ext store answer).1 = .countAttempt id fails ∨
      (call.next ext store answer).1 = .consume id fails) :
    fails = answer.fails ∧ ∃ phone code row, call = .compare phone code row ∧ row.id = id ∧
      row.refusal store.now = none ∧ (ext.hashCode code = row.codeHash ↔
        (call.next ext store answer).1 = .consume id fails) := by
  cases call with
  | findDriver phone => exact writes.elim nofun nofun
  | done response => exact writes.elim nofun nofun
  | findCode phone code => exact writes.elim nofun nofun
  | readDriver phone => exact writes.elim nofun nofun
  | issue phone =>
    simp only [OtpCall.next] at writes
    split at writes <;> exact writes.elim nofun nofun
  | recordSms other sent reason =>
    simp only [OtpCall.next] at writes
    split at writes <;> exact writes.elim nofun nofun
  | compare phone code row =>
    simp only [OtpCall.next] at writes ⊢
    -- A code that was used, has expired or is locked is compared with nothing.
    cases refused : row.refusal store.now with
    | some failure =>
      rw [refused] at writes
      exact writes.elim nofun nofun
    | none =>
      rw [refused] at writes
      by_cases right : ext.hashCode code = row.codeHash
      · simp only [if_pos right] at writes ⊢
        rcases writes with ⟨⟨⟩⟩ | ⟨⟨⟩⟩
        exact ⟨rfl, phone, code, row, rfl, rfl, refused, iff_of_true right rfl⟩
      · simp only [if_neg right] at writes ⊢
        rcases writes with ⟨⟨⟩⟩ | ⟨⟨⟩⟩
        exact ⟨rfl, phone, code, row, rfl, rfl, refused, iff_of_false right (by rintro ⟨⟩)⟩

/-- A row a call holds was found under its id. -/
theorem next_compare {answer : OtpAnswer} {call : OtpCall} {phone code : String} {row : OtpCode}
    (holds : (call.next ext store answer).2 = .compare phone code row) : store.codes.find? row.id = some row := by
  -- Only finding the code leads to comparing it.
  cases call with
  | findDriver phone =>
    simp only [OtpCall.next] at holds
    split at holds
    · cases holds
    · split at holds <;> cases holds
  | done response => cases holds
  | readDriver phone =>
    simp only [OtpCall.next] at holds
    split at holds
    · cases holds
    · split at holds <;> cases holds
  | issue phone =>
    simp only [OtpCall.next] at holds
    split at holds
    · cases holds
    · split at holds <;> cases holds
  | recordSms other sent reason => cases holds
  | compare phone code read =>
    simp only [OtpCall.next] at holds
    split at holds
    · cases holds
    · split at holds
      · split at holds <;> cases holds
      · split at holds <;> cases holds
  | findCode phone code =>
    simp only [OtpCall.next] at holds
    split at holds
    · cases holds
    · split at holds
      · cases holds
      · rename_i found
        cases holds
        -- The latest code of the phone is one of the rows.
        have listed := List.mem_of_mem_filter (mem_of_firstBy found)
        exact Table.find?_eq_some.mpr ⟨listed, rfl⟩

end

/-- Every guess is on record, and the rows that calls hold are there. -/
structure Counted (store : OtpStore) (calls : List OtpCall) : Prop where
  counts : ∀ id, guesses store.notes id = attemptsOf store.codes id
  reads : ∀ call ∈ calls, ∀ phone code row, call = .compare phone code row →
    ∃ stored, store.codes.find? row.id = some stored

section
variable {ext : OtpExternals}

/-- A call that has only just arrived holds no row. -/
theorem start_ne_compare (entry : OtpEntry) {phone code : String} {row : OtpCode} :
    OtpEntry.start ext entry ≠ .compare phone code row := by
  -- A call begins by refusing its input or by looking a code up.
  cases entry with
  | requestOtp phoneNumber =>
    simp only [OtpEntry.start]
    split <;> rintro ⟨⟩
  | verifyOtp phoneNumber supplied =>
    simp only [OtpEntry.start]
    split
    · split <;> rintro ⟨⟩
    · rintro ⟨⟩

/-- As long as no statement fails, every guess is counted, whatever the interleaving. -/
theorem counted_keeps : (otpSystem ext).Keeps Counted fun _ event => Served event where
  perm same counted :=
    ⟨counted.counts, fun call member => counted.reads call (same.mem_iff.mpr member)⟩
  moves := by
    intro pool index answer call others taken counted served
    constructor
    -- Each guess that is compared is counted on its row by the UPDATE before.
    · intro id
      show guesses (OtpStatement.execute pool.shared (call.next ext pool.shared answer).1).notes id = _
      rw [execute_notes, guesses_append, counted.counts]
      refine (attemptsOf_execute id ?_).symm
      intro other fails counts
      -- The guess was at a row that has been read, and rows stay.
      obtain ⟨rfl, phone, code, row, rfl, rfl, -⟩ := next_compares (.inl counts)
      exact ⟨served, counted.reads _ List.mem_cons_self phone code row rfl⟩
    · intro other member phone code row holds
      rcases List.mem_cons.mp member with rfl | among
      · exact find?_execute (next_compare holds)
      · obtain ⟨stored, found⟩ := counted.reads other (List.mem_cons_of_mem _ among) phone code row holds
        exact find?_execute found
  -- A call that begins has read no row yet.
  arrives := by
    intro pool entry counted _
    refine ⟨counted.counts, fun call member phone code row holds => ?_⟩
    rcases List.mem_cons.mp member with rfl | among
    · exact absurd holds (start_ne_compare entry)
    · exact counted.reads call among phone code row holds
  stops := by
    intro pool index call others _ counted _
    refine ⟨counted.counts, fun other member phone code row holds => ?_⟩
    rcases List.mem_cons.mp member with rfl | among
    · cases holds
    · exact counted.reads other (List.mem_cons_of_mem _ among) phone code row holds
  happens := by
    intro pool elapsed counted _ _
    exact ⟨counted.counts, counted.reads⟩

/-- A call that is there runs its statement: nothing here is ever locked. -/
theorem otp_run {pool : OtpPool} {index : Nat} {call : OtpCall} (answer : OtpAnswer)
    (found : pool.calls[index]? = some call) :
    ((otpSystem ext).step pool (.run index answer)).shared =
      (call.next ext pool.shared answer).1.execute pool.shared := by
  -- It needs no lock, so nobody has to be waited for.
  have free : (otpSystem ext).Free ((otpSystem ext).needs ((otpSystem ext).next pool.shared answer call).1)
      (pool.calls.eraseIdx index) := fun _ _ key needed => by cases needed
  simp only [CallSystem.step, found, if_pos free]
  rfl

/-- An event that does not run a call's statement writes nothing down. -/
theorem otp_notes (pool : OtpPool) (event : OtpEvent) :
    ((otpSystem ext).step pool event).shared.notes = pool.shared.notes ∨
      ∃ index answer call, event = .run index answer ∧ pool.calls[index]? = some call ∧
        ((otpSystem ext).step pool event).shared.notes =
          pool.shared.notes ++ (call.next ext pool.shared answer).1.noted pool.shared := by
  -- Arriving, stopping and waiting write nothing; a call that runs writes what its statement notes.
  cases event with
  | call entry => exact .inl rfl
  | stop index => exact .inl rfl
  | outside elapsed =>
    refine .inl ?_
    simp only [CallSystem.step]
    split <;> rfl
  | run index answer =>
    cases found : pool.calls[index]? with
    | none =>
      refine .inl ?_
      simp only [CallSystem.step, found]
    | some call =>
      refine .inr ⟨index, answer, call, rfl, found, ?_⟩
      rw [otp_run answer found, execute_notes]

/-- What the desk still withstands after a step was compared in time. -/
theorem timely_of_withstands {pool : OtpPool} {event : OtpEvent} (counted : Counted pool.shared pool.calls)
    (served : Served event) (withstands : Withstands ((otpSystem ext).step pool event).shared) :
    Timely ext pool event := by
  cases event with
  | call entry => trivial
  | stop index => trivial
  | outside elapsed => trivial
  | run index answer =>
    intro call found
    have ran := @otp_run ext _ _ _ answer found
    have served : answer.fails = false := served
    cases call with
    | compare phone code row => ?_
    | _ => trivial
    intro passed stored there
    have there : pool.shared.codes.find? row.id = some stored := there
    simp only [OtpCall.next, passed] at ran
    by_cases right : ext.hashCode code = row.codeHash
    · -- A code that verified was noted with whether it was spent.
      rw [if_pos right]
      simp only [if_pos right, served] at ran
      have once := withstands.once row.id
      rw [ran, execute_notes] at once
      simp only [OtpStatement.noted, there, Option.any_some, Bool.false_eq_true, if_false, List.mem_append,
        List.mem_cons, not_or] at once
      cases spent : stored.spent with
      | false => rfl
      | true => exact absurd (by rw [spent]) once.2.2.1
    · rw [if_neg right]
      simp only [if_neg right, served] at ran
      have few := withstands.few row.id
      rw [ran, execute_notes, guesses_append, counted.counts] at few
      -- The guesses so far are the attempts on record, and this is one more.
      simp only [attemptsOf, there, Option.map_some, Option.getD_some, OtpStatement.noted, guesses,
        List.countP_singleton, decide_true, if_true, otpMaxAttempts] at few
      have open_ : ¬ otpMaxAttempts ≤ stored.attempts := by
        unfold otpMaxAttempts
        omega
      exact decide_eq_false open_

/-- What is compared in time keeps the desk withstanding. -/
theorem withstands_of_timely {pool : OtpPool} {event : OtpEvent} (counted : Counted pool.shared pool.calls)
    (withstands : Withstands pool.shared) (timely : Timely ext pool event) :
    Withstands ((otpSystem ext).step pool event).shared := by
  rcases @otp_notes ext pool event with same | ⟨index, answer, call, rfl, found, notes⟩
  · exact ⟨same ▸ withstands.few, same ▸ withstands.once⟩
  · constructor
    · intro id
      rw [notes, guesses_append]
      cases written : (call.next ext pool.shared answer).1 with
      | countAttempt other fails =>
        obtain ⟨-, phone, code, row, rfl, rfl, passed, right⟩ := next_compares (.inl written)
        obtain ⟨stored, there⟩ := counted.reads _ (List.mem_of_getElem? found) phone code row rfl
        -- It is counted, so the code was wrong, and there was room for one guess more.
        have wrong : ¬ ext.hashCode code = row.codeHash := by
          rw [right, written]
          rintro ⟨⟩
        have open_ := timely _ found passed stored there
        simp only [if_neg wrong, OtpCode.locked, decide_eq_false_iff_not, not_le] at open_
        by_cases same : id = row.id
        · subst same
          rw [counted.counts]
          simp only [attemptsOf, there, Option.map_some, Option.getD_some, OtpStatement.noted, guesses,
            List.countP_singleton, decide_true, if_true]
          exact open_
        · have apart : guesses [OtpNote.compared row.id false] id = 0 := by
            have other : ¬ row.id = id := fun eq => same eq.symm
            simp [guesses, other]
          rw [OtpStatement.noted, apart]
          exact withstands.few id
      | consume other fails =>
        have none_ : guesses ((OtpStatement.consume other fails).noted pool.shared) id = 0 := by
          cases fails <;> simp [guesses, OtpStatement.noted]
        rw [none_]
        exact withstands.few id
      | select => exact withstands.few id
      | none => exact withstands.few id
      | insertCode phone codeHash expiresAt => exact withstands.few id
      | recordSms other status => exact withstands.few id
    · intro id listed
      rw [notes] at listed
      rcases List.mem_append.mp listed with before | new
      · exact withstands.once id before
      · cases written : (call.next ext pool.shared answer).1 with
        | consume other fails =>
          obtain ⟨-, phone, code, row, rfl, rfl, passed, right⟩ := next_compares (.inr written)
          obtain ⟨stored, there⟩ := counted.reads _ (List.mem_of_getElem? found) phone code row rfl
          -- It is consumed, so it was right, and nobody had consumed it before.
          have unspent := timely _ found passed stored there
          rw [if_pos (right.mpr written)] at unspent
          rw [written] at new
          cases fails with
          | true =>
            simp [OtpStatement.noted] at new
          | false =>
            simp [OtpStatement.noted, there, unspent] at new
        | countAttempt other fails =>
          rw [written] at new
          simp [OtpStatement.noted] at new
        | select => rw [written] at new; cases new
        | none => rw [written] at new; cases new
        | insertCode phone codeHash expiresAt => rw [written] at new; cases new
        | recordSms other status => rw [written] at new; cases new

/-- Codes withstand guessing in every state of a run exactly when nothing that was read of a code has changed by
the time it is compared with. -/
theorem codes_withstand_iff {pool : OtpPool} {events : List OtpEvent}
    (idle : pool.calls = []) (unissued : pool.shared.codes.rows = []) (unnoted : pool.shared.notes = [])
    (served : ∀ event ∈ events, Served event) :
    Throughout (otpSystem ext).step (fun pool => Withstands pool.shared) pool events ↔
      Along (otpSystem ext).step (Timely ext) pool events := by
  -- At a quiet desk no code has been issued, so none has been guessed at.
  have counted : Counted pool.shared pool.calls := by
    constructor
    · intro id
      rw [unnoted]
      have missing : pool.shared.codes.find? id = none := by
        rw [Table.find?, unissued]
        rfl
      simp only [attemptsOf, missing]
      rfl
    · intro call member
      rw [idle] at member
      cases member
  have withstands : Withstands pool.shared := by
    constructor
    · intro id
      rw [unnoted]
      exact Nat.zero_le _
    · intro id
      rw [unnoted]
      exact List.not_mem_nil
  -- Every event of a run is served, so the guesses are on record in every state of it.
  have all : Along (otpSystem ext).step (fun _ event => Served event) pool events :=
    along_iff_each.mpr fun prior event rest same => served event (by rw [same]; simp)
  constructor
  -- A guess at a changed code is one too many in the state after it.
  · intro throughout
    rw [along_iff_each]
    intro prior event rest same
    have before := all.before ⟨event :: rest, same.symm⟩
    have held := before.invariant (fun pool event held met => counted_keeps.step pool event held met) counted
    refine timely_of_withstands held (served event (by rw [same]; simp)) ?_
    have after := throughout (prior ++ [event]) ⟨rest, by simp [same]⟩
    rw [run_append] at after
    exact after
  -- Along the run every guess is at the row as it stands.
  · intro along
    have both : Throughout (otpSystem ext).step
        (fun pool => Counted pool.shared pool.calls ∧ Withstands pool.shared) pool events :=
      (all.and along).throughout (fun pool event held met =>
        ⟨counted_keeps.step pool event held.1 met.1, withstands_of_timely held.1 held.2 met.2⟩)
        ⟨counted, withstands⟩
    exact both.mono fun _ held => held.2

end

/-- Phones are taken as they are written, and codes are stored in the clear. -/
def plainExternals : OtpExternals where
  normalizePhone := some
  hashCode := id

/-- One driver, and no code yet. -/
def quietDesk : OtpPool where
  shared := { drivers := [{ phoneNumber := "+250788123456" }] }
  calls := []

/-- A code is asked for and texted. -/
def codeTexted : List OtpEvent :=
  [.call (.requestOtp "+250788123456"), .run 0 {}, .run 0 { draw := "123456" }, .run 0 {}]

/-- Six wrong codes and the right one are sent at once: all are looked up before any is compared. -/
def sevenAtOnce : List OtpEvent :=
  codeTexted ++ [.call (.verifyOtp "+250788123456" "000000"), .call (.verifyOtp "+250788123456" "000001"),
    .call (.verifyOtp "+250788123456" "000002"), .call (.verifyOtp "+250788123456" "000003"),
    .call (.verifyOtp "+250788123456" "000004"), .call (.verifyOtp "+250788123456" "000005"),
    .call (.verifyOtp "+250788123456" "123456"), .run 1 {}, .run 2 {}, .run 3 {}, .run 4 {}, .run 5 {}, .run 6 {},
    .run 7 {}, .run 1 {}, .run 2 {}, .run 3 {}, .run 4 {}, .run 5 {}, .run 6 {}, .run 7 {}, .run 7 {}]

/-- Six guesses are taken at one code, and then it verifies although five had locked it. -/
theorem seven_at_once :
    (∀ event ∈ sevenAtOnce, Served event) ∧
      guesses (run (otpSystem plainExternals).step quietDesk sevenAtOnce).shared.notes 1 = 6 ∧
      .verified 1 true ∈ (run (otpSystem plainExternals).step quietDesk sevenAtOnce).shared.notes ∧
      ¬ Throughout (otpSystem plainExternals).step (fun pool => Withstands pool.shared) quietDesk sevenAtOnce := by
  -- Six guesses at one code are one more than it may take.
  have six : guesses (run (otpSystem plainExternals).step quietDesk sevenAtOnce).shared.notes 1 = 6 := by
    decide +kernel
  refine ⟨by decide +kernel, six, by decide +kernel, fun throughout => ?_⟩
  have few := (throughout.last).few 1
  rw [six] at few
  exact absurd few (by decide)

/-- One after the other, a wrong code is counted and the right one verifies. -/
theorem one_by_one : Throughout (otpSystem plainExternals).step (fun pool => Withstands pool.shared) quietDesk
    [.call (.requestOtp "+250788123456"), .run 0 {}, .run 0 { draw := "123456" }, .run 0 {},
      .call (.verifyOtp "+250788123456" "000000"), .run 1 {}, .run 1 {},
      .call (.verifyOtp "+250788123456" "123456"), .run 2 {}, .run 2 {}, .run 2 {}] := by
  -- The desk begins with no code issued and nobody calling.
  exact (codes_withstand_iff rfl rfl rfl (by decide +kernel)).mpr (by decide +kernel)

end Freight.Auth
