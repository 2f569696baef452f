import Freight.Auth.Revoked
import Freight.Library.Spending

/-! Credentials that are good for one use, and which interleavings use them once. -/

namespace Freight.Auth

/-- The codes that verified. -/
def verifiedIds (notes : List OtpNote) : List Nat :=
  notes.filterMap fun note =>
    match note with
    | .verified id _ => some id
    | .compared _ _ => none

/-- Every credential has been used once at most, and no recovery code that was accepted is valid again. -/
structure UsedOnce (store : SessionStore) : Prop where
  exchanged : store.exchanged.Nodup
  accepted : store.accepted.Nodup
  gone : ∀ spent ∈ store.accepted, ∀ user ∈ store.users.find? spent.1,
    spent.2 ∉ user.totpRecoveryCodeHashes.getD []
  verified : (verifiedIds store.otpNotes).Nodup
  redeemed : store.redeemed.Nodup

/--
A statement that spends a credential finds it as it was read: not spent yet.

The recovery codes it writes back are those there are now, without the one that is spent.
-/
def SessionStatement.spendsUnspent (store : SessionStore) : SessionStatement → Bool
  | .rotate number => store.tokens.any fun row => row.number = number && !row.rotated
  | .writeRecovery username remaining hash => (store.users.find? username).any fun user =>
    (user.totpRecoveryCodeHashes.getD []).contains hash && (user.totpRecoveryCodeHashes.getD []).erase hash = remaining
  | .otp (.consume id false) => (store.codes.find? id).any fun row => row.consumedAt.isNone
  | .redeem id => (store.invites.find? id).any fun row => row.usedAt.isNone
  | _ => true

/-- What a request has read of the credential it is about to spend still stands. -/
def SessionCall.asRead (ext : SessionExternals) (store : SessionStore) : SessionCall → Bool
  | .rotate _ token => store.tokens.any fun row => row.number = token.number && row.rotated = token.rotated
  | .spendRecovery user _ _ => (store.users.find? user.username).any fun later =>
    later.totpRecoveryCodeHashes = user.totpRecoveryCodeHashes
  -- A wrong code is not spent.
  | .otp (.compare _ code row) => ext.otp.hashCode code ≠ row.codeHash ||
    (store.codes.find? row.id).any fun later => later.consumedAt = row.consumedAt
  | .redeem _ _ invite => (store.invites.find? invite.id).any fun later => later.usedAt = invite.usedAt
  | _ => true

/-- No other request comes between what a request reads of a credential and what it does to it. -/
def SpendsAsRead (ext : SessionExternals) (pool : SessionPool) : SessionEvent → Prop
  | .run index answer => ∀ call ∈ pool.calls[index]?, answer.fails = false → call.asRead ext pool.shared = true
  | _ => True

instance (ext : SessionExternals) (pool : SessionPool) : DecidablePred (SpendsAsRead ext pool)
  | .run index _ => inferInstanceAs (Decidable (∀ call ∈ pool.calls[index]?, _))
  | .call _ | .stop _ | .outside _ => inferInstanceAs (Decidable True)

/-- What a request read of a credential was good for spending it. -/
def SessionCall.WellRead : SessionCall → Prop
  | .readUser token | .rotate _ token => token.rotated = false
  | .spendRecovery user remaining hash => hash ∈ user.totpRecoveryCodeHashes.getD [] ∧
    (user.totpRecoveryCodeHashes.getD []).erase hash = remaining
  | .redeem _ _ invite => invite.usedAt = none
  | _ => True

/-- The token that a request has revoked, and is about to exchange. -/
def SessionCall.exchanging : SessionCall → Option Nat
  | .issue _ (.exchange number _) => some number
  | _ => none

/-- A token has been exchanged, or is about to be. -/
def Rotated (store : SessionStore) (number : Nat) : Prop :=
  number < store.serial ∧ ∀ row ∈ store.tokens, row.number = number → row.rotated = true

/-- A recovery code of an account is not valid. -/
def Gone (store : SessionStore) (spent : String × String) : Prop :=
  ∀ user ∈ store.users.find? spent.1, spent.2 ∉ user.totpRecoveryCodeHashes.getD []

/-- A one-time code has been consumed. -/
def Consumed (store : SessionStore) (id : Nat) : Prop :=
  ∃ row, store.codes.find? id = some row ∧ row.consumedAt.isSome = true

/-- An invite has been used. -/
def Used (store : SessionStore) (id : Nat) : Prop :=
  ∃ row, store.invites.find? id = some row ∧ row.usedAt.isSome = true

/-- What is kept of single-use credentials while requests are in flight. -/
structure Single (store : SessionStore) (calls : List SessionCall) : Prop where
  numbered : ∀ row ∈ store.tokens, row.number < store.serial
  revoked : ∀ row ∈ store.tokens, row.rotated = true → row.revokedAt.isSome = true
  /-- No account has been given one recovery code twice. -/
  distinct : ∀ user ∈ store.users.rows, (user.totpRecoveryCodeHashes.getD []).Nodup
  exchanged : SpentOnce (Rotated store) (store.exchanged ++ calls.filterMap SessionCall.exchanging)
  accepted : SpentOnce (Gone store) store.accepted
  verified : SpentOnce (Consumed store) (verifiedIds store.otpNotes)
  redeemed : SpentOnce (Used store) store.redeemed
  wellRead : ∀ call ∈ calls, call.WellRead

/-- What is kept is that everything is used once. -/
theorem Single.usedOnce {store : SessionStore} {calls : List SessionCall} (inv : Single store calls) :
    UsedOnce store where
  -- What is about to be exchanged is left out of what has been.
  exchanged := (inv.exchanged.sublist (List.sublist_append_left _ _)).once
  accepted := inv.accepted.once
  gone := inv.accepted.marks
  verified := inv.verified.once
  redeemed := inv.redeemed.once

section
variable {ext : SessionExternals} {store : SessionStore} {answer : SessionAnswer} {call : SessionCall}
  {others : List SessionCall}

/-- A request exchanges a token once it has revoked it. -/
theorem SessionCall.next_exchanging {number : Nat}
    (exchanges : (call.next ext store answer).2.exchanging = some number) :
    (call.next ext store answer).1 = .rotate number := by
  rcases call.next_cases ext store answer with works | ⟨fails, response, caught⟩
  · rw [works] at exchanges ⊢
    cases call with
    | rotate user token =>
      cases exchanges
      rfl
    | otp inner =>
      simp only [SessionCall.proceed, Prod.map_snd] at exchanges
      split at exchanges <;> cases exchanges
    -- No other request has a token in exchange after its statement.
    | _ =>
      simp only [SessionCall.proceed, afterUser, afterFactor, afterPin, afterOnboarding, afterTarget,
        afterPassword] at exchanges
      repeat' split at exchanges
      all_goals cases exchanges
  · -- A statement that fails ends its request.
    rw [fails, caught] at exchanges
    cases exchanges

/-- A request that revokes a token to exchange it has not revoked one yet, and goes on to exchange this one. -/
theorem SessionCall.rotate_of_next {number : Nat} (rotates : (call.next ext store answer).1 = .rotate number) :
    call.exchanging = none ∧ (call.next ext store answer).2.exchanging = some number := by
  -- A statement that fails revokes nothing, and of those that work one exchanges.
  rcases call.next_cases ext store answer with works | ⟨fails, -⟩
  · rw [works] at rotates ⊢
    cases call with
    | rotate user token =>
      cases rotates
      exact ⟨rfl, rfl⟩
    | _ => cases rotates
  · rw [fails] at rotates
    cases rotates

/-- A token after a statement is one that was inserted under the serial, or one there was; exchanged stays so. -/
theorem SessionStatement.execute_rotated {statement : SessionStatement} {token : SessionToken}
    (listed : token ∈ (statement.execute store).tokens) :
    token.number = store.serial ∧ (∃ username via, statement = .insertToken username via) ∨
      ∃ old ∈ store.tokens, token.number = old.number ∧ (old.rotated = true → token.rotated = true) ∧
        (statement = .rotate old.number → token.rotated = true) := by
  cases statement with
  | insertToken username via =>
    rcases List.mem_append.mp listed with old | new
    · exact .inr ⟨token, old, rfl, id, fun rotates => by cases rotates⟩
    · exact .inl ⟨by rw [List.mem_singleton.mp new]; rfl, username, via, rfl⟩
  | rotate number =>
    obtain ⟨old, before, rfl⟩ := List.mem_map.mp listed
    -- The token that is exchanged is marked, and every other one left as it was.
    refine .inr ⟨old, before, ?_⟩
    split
    · exact ⟨rfl, fun _ => rfl, fun _ => rfl⟩
    · rename_i other
      exact ⟨rfl, id, fun rotates => absurd (SessionStatement.rotate.inj rotates).symm other⟩
  | revoke | revokeAll =>
    obtain ⟨old, before, rfl⟩ := List.mem_map.mp listed
    refine .inr ⟨old, before, ?_⟩
    split <;> exact ⟨rfl, id, fun rotates => by cases rotates⟩
  | _ => exact .inr ⟨token, listed, rfl, id, fun rotates => by cases rotates⟩

/-- Every token stays numbered below the serial. -/
theorem Single.next_numbered {calls : List SessionCall} (inv : Single store calls) (statement : SessionStatement) :
    ∀ row ∈ (statement.execute store).tokens, row.number < (statement.execute store).serial := by
  -- A row that is there afterwards is the one drawn now, or was there before.
  intro row listed
  rcases SessionStatement.execute_rotated listed with ⟨drawn, username, via, rfl⟩ | ⟨old, before, number, -⟩
  · exact drawn.trans_lt (Nat.lt_succ_self _)
  · rw [number]
    exact (inv.numbered old before).trans_le (statement.execute_grows store).1

/-- A token that was exchanged stays so. -/
theorem Rotated.execute {number : Nat} (rotated : Rotated store number) (statement : SessionStatement) :
    Rotated (statement.execute store) number := by
  -- A row that is drawn now has a later number, and no statement takes a mark back.
  refine ⟨rotated.1.trans_le (statement.execute_grows store).1, fun row listed own => ?_⟩
  rcases SessionStatement.execute_rotated listed with ⟨drawn, -⟩ | ⟨old, before, same, stays, -⟩
  · exact absurd (own.symm.trans drawn) (Nat.ne_of_lt rotated.1)
  · exact stays (rotated.2 old before (same.symm.trans own))

/-- What is exchanged by a statement. -/
def SessionStatement.exchanges : SessionStatement → Option Nat
  | .insertToken _ (.exchange number _) => some number
  | _ => none

/-- It is written down behind what has been exchanged. -/
theorem SessionStatement.execute_exchanged (statement : SessionStatement) (store : SessionStore) :
    (statement.execute store).exchanged = store.exchanged ++ statement.exchanges.toList := by
  -- Only the insertion that completes an exchange is written down.
  cases statement with
  | insertToken username via =>
    cases via with
    | exchange number session => rfl
    | _ => exact (List.append_nil _).symm
  | _ => exact (List.append_nil _).symm

/-- A token is exchanged by the request that was about to, and that is the end of it. -/
theorem SessionCall.exchanges_of_next {number : Nat}
    (exchanges : (call.next ext store answer).1.exchanges = some number) :
    call.exchanging = some number ∧ (call.next ext store answer).2.exchanging = none := by
  cases statement : (call.next ext store answer).1 with
  | insertToken username via =>
    rw [statement] at exchanges
    obtain ⟨user, rfl, -⟩ := SessionCall.insertToken_of_next statement
    cases via with
    | exchange own session =>
      cases exchanges
      refine ⟨rfl, ?_⟩
      -- Another exchange would be by an UPDATE, and this is an INSERT.
      cases next : (SessionCall.next ext store answer (.issue user (.exchange number session))).2.exchanging with
      | none => rfl
      | some other =>
        have rotates := SessionCall.next_exchanging next
        rw [statement] at rotates
        cases rotates
    | _ => cases exchanges
  | _ =>
    rw [statement] at exchanges
    cases exchanges

/-- Tokens stay exchanged once, where the one that is revoked now had not been revoked for another exchange. -/
theorem Single.next_exchanged (inv : Single store (call :: others))
    (unspent : (call.next ext store answer).1.spendsUnspent store = true) :
    SpentOnce (Rotated ((call.next ext store answer).1.execute store))
      (((call.next ext store answer).1.execute store).exchanged ++
        ((call.next ext store answer).2 :: others).filterMap SessionCall.exchanging) := by
  have before := inv.exchanged
  have stays := fun number (rotated : Rotated store number) => rotated.execute (call.next ext store answer).1
  rw [SessionStatement.execute_exchanged]
  cases next : (call.next ext store answer).2.exchanging with
  | some number =>
    -- The token is revoked now, and its request goes on to exchange it.
    have rotates := SessionCall.next_exchanging next
    rw [List.filterMap_cons_none (SessionCall.rotate_of_next rotates).1] at before
    rw [rotates] at unspent
    obtain ⟨row, listed, unrotated⟩ := List.any_eq_true.mp unspent
    simp only [Bool.and_eq_true, decide_eq_true_eq, Bool.not_eq_true'] at unrotated
    have unmarked : ¬ Rotated store number := fun rotated => by
      have marked := rotated.2 row listed unrotated.1
      rw [unrotated.2] at marked
      cases marked
    -- After the statement the token is marked, for good.
    have marks : Rotated ((call.next ext store answer).1.execute store) number := by
      rw [rotates]
      refine ⟨unrotated.1 ▸ inv.numbered row listed, fun later found own => ?_⟩
      rcases SessionStatement.execute_rotated found with ⟨-, _, _, inserts⟩ | ⟨old, -, same, -, marks⟩
      · cases inserts
      · exact marks (by rw [← same, own])
    have nothing : (call.next ext store answer).1.exchanges = none := by rw [rotates]; rfl
    rw [List.filterMap_cons_some next, nothing, Option.toList_none, List.append_nil]
    exact (before.cons stays unmarked marks).perm List.perm_middle.symm
  -- Nothing is on its way to be exchanged; an INSERT moves what was into the list.
  | none =>
    rw [List.filterMap_cons_none next]
    cases exchanges : (call.next ext store answer).1.exchanges with
    | some number =>
      rw [List.filterMap_cons_some (SessionCall.exchanges_of_next exchanges).1] at before
      rw [Option.toList_some, List.append_assoc]
      exact before.mono stays
    | none =>
      rw [Option.toList_none, List.append_nil]
      refine (before.mono stays).sublist (List.Sublist.append_left ?_ _)
      exact (List.sublist_cons_self call others).filterMap _

/-- Everything but the use of a recovery code leaves the recovery codes of an account as they are. -/
theorem SessionStatement.codes_execute {statement : SessionStatement}
    (other : ∀ username remaining hash, statement ≠ .writeRecovery username remaining hash) {username : String}
    {user : Person} (stored : (statement.execute store).users.find? username = some user) :
    ∃ old, store.users.find? username = some old ∧ user.totpRecoveryCodeHashes = old.totpRecoveryCodeHashes := by
  cases statement with
  | writeRecovery username remaining hash => exact absurd rfl (other username remaining hash)
  -- These write the account, in columns of their own.
  | setPin | setStatus =>
    simp only [SessionStatement.execute, Table.find?_updateWhere] at stored
    obtain ⟨old, was, rfl⟩ := Option.map_eq_some_iff.mp stored
    refine ⟨old, was, ?_⟩
    split <;> rfl
  | setPassword name passwordHash =>
    simp only [SessionStatement.execute, Table.find?_update] at stored
    split at stored
    · obtain ⟨old, was, rfl⟩ := Option.map_eq_some_iff.mp stored
      exact ⟨old, was, rfl⟩
    · exact ⟨user, stored, rfl⟩
  | _ => exact ⟨user, stored, rfl⟩

/-- So the codes that are gone stay gone, and none is given twice. -/
theorem Single.kept_codes {later : SessionStore} {calls : List SessionCall} (inv : Single store calls)
    (codes : ∀ username user, later.users.find? username = some user → ∃ old,
      store.users.find? username = some old ∧ user.totpRecoveryCodeHashes = old.totpRecoveryCodeHashes)
    (accepted : later.accepted = store.accepted) :
    (∀ user ∈ later.users.rows, (user.totpRecoveryCodeHashes.getD []).Nodup) ∧
      SpentOnce (Gone later) later.accepted := by
  constructor
  · intro user listed
    -- The codes that are left are those of the row as it was.
    obtain ⟨old, stored, same⟩ := codes user.username user (Table.find?_eq_some.mpr ⟨listed, rfl⟩)
    rw [same]
    exact inv.distinct old (Table.find?_eq_some.mp stored).1
  · rw [accepted]
    refine inv.accepted.mono fun spent gone user found => ?_
    obtain ⟨old, stored, same⟩ := codes spent.1 user found
    rw [same]
    exact gone old stored

/-- A recovery code that is gone stays gone, and no account is given one twice. -/
theorem Single.next_codes {calls : List SessionCall} (inv : Single store calls) {statement : SessionStatement}
    (unspent : statement.spendsUnspent store = true) :
    (∀ user ∈ (statement.execute store).users.rows, (user.totpRecoveryCodeHashes.getD []).Nodup) ∧
      SpentOnce (Gone (statement.execute store)) (statement.execute store).accepted := by
  cases statement with
  | writeRecovery username remaining hash =>
    simp only [SessionStatement.spendsUnspent, Option.any_eq_true, Bool.and_eq_true, List.contains_iff_mem,
      decide_eq_true_eq] at unspent
    obtain ⟨user, stored, among, rfl⟩ := unspent
    have codes := inv.distinct user (Table.find?_eq_some.mp stored).1
    -- Taking one code off an array puts none back.
    have gone : ∀ spent, Gone store spent →
        Gone ((SessionStatement.writeRecovery username
          ((user.totpRecoveryCodeHashes.getD []).erase hash) hash).execute store) spent := by
      intro spent before later found
      simp only [SessionStatement.execute, Table.find?_update] at found
      split at found
      · rename_i own
        obtain ⟨old, was, rfl⟩ := Option.mem_map.mp found
        rw [own] at was
        have same : old = user := Option.some.inj (was.symm.trans stored)
        have absent := before old (by rw [own]; exact was)
        rw [same] at absent
        exact fun listed => absent (List.mem_of_mem_erase listed)
      · exact before later found
    refine ⟨fun later listed => ?_, inv.accepted.concat gone ?_ ?_⟩
    · obtain ⟨old, before, rfl⟩ := List.mem_map.mp listed
      split
      · exact codes.sublist List.erase_sublist
      · exact inv.distinct old before
    · -- The code was among the stored ones, and so had not been used.
      exact fun absent => absent user stored among
    · intro later found
      simp only [SessionStatement.execute, Table.find?_update, if_true] at found
      obtain ⟨old, was, rfl⟩ := Option.mem_map.mp found
      exact codes.not_mem_erase
  | _ => exact inv.kept_codes (fun _ _ => SessionStatement.codes_execute (by simp)) rfl

/-- A code that has been consumed stays so. -/
theorem Consumed.execute {id : Nat} (consumed : Consumed store id) (statement : OtpStatement) :
    Consumed ((SessionStatement.otp statement).execute store) id := by
  have change {other : Nat} (change : OtpCode → OtpCode) (keeps : ∀ row, (change row).id = row.id)
      (stays : ∀ row, row.consumedAt.isSome = true → (change row).consumedAt.isSome = true) :
      Consumed { store with codes := store.codes.update other change keeps } id :=
    Table.marked_update keeps consumed stays
  cases statement with
  | select | none => exact consumed
  | insertCode phone codeHash expiresAt =>
    obtain ⟨row, found, is⟩ := consumed
    exact ⟨row, Table.find?_insert_of_some found, is⟩
  -- The rest change a row in place, and none takes its mark off.
  | recordSms other status => exact change (fun row => { row with smsStatus := some status }) (fun _ => rfl) fun _ is => is
  | countAttempt other fails =>
    cases fails with
    | true => exact consumed
    | false => exact change (fun row => { row with attempts := row.attempts + 1 }) (fun _ => rfl) fun _ is => is
  | consume other fails =>
    cases fails with
    | true => exact consumed
    | false => exact change (fun row => { row with consumedAt := some store.now }) (fun _ => rfl) fun _ _ => rfl

/-- Codes verify once, where the one that is consumed now had not been. -/
theorem Single.next_verified {calls : List SessionCall} (inv : Single store calls) {statement : SessionStatement}
    (unspent : statement.spendsUnspent store = true) :
    SpentOnce (Consumed (statement.execute store)) (verifiedIds (statement.execute store).otpNotes) := by
  cases statement with
  | otp inner =>
    have stays := fun id (consumed : Consumed store id) => consumed.execute inner
    have noted : ((SessionStatement.otp inner).execute store).otpNotes =
        store.otpNotes ++ inner.noted store.otpStore := execute_notes
    rw [noted, verifiedIds, List.filterMap_append]
    cases inner with
    | consume id fails =>
      cases fails with
      | true => exact (List.append_nil (verifiedIds store.otpNotes)).symm ▸ inv.verified.mono stays
      | false =>
        obtain ⟨row, found, unconsumed⟩ := (Option.any_eq_true _ _).mp unspent
        -- The row that is consumed now was not, and is from here on.
        refine inv.verified.concat stays ?_ ?_
        · rintro ⟨other, same, consumed⟩
          cases found.symm.trans same
          rw [Option.isNone_iff_eq_none.mp unconsumed] at consumed
          cases consumed
        · have there : (store.codes.find? id).isSome = true := by rw [found]; rfl
          exact @Table.marks_update _ _ _ _ store.codes (fun row => row.consumedAt.isSome = true)
            (fun row => { row with consumedAt := some store.now }) (fun _ => rfl) id there fun _ => rfl
    -- The other statements note no verification.
    | _ => exact (List.append_nil (verifiedIds store.otpNotes)).symm ▸ inv.verified.mono stays
  | _ => exact inv.verified

/-- Invites are redeemed once, where the one that is redeemed now had not been used. -/
theorem Single.next_redeemed {calls : List SessionCall} (inv : Single store calls) {statement : SessionStatement}
    (unspent : statement.spendsUnspent store = true) :
    SpentOnce (Used (statement.execute store)) (statement.execute store).redeemed := by
  -- The invite that is redeemed was unused, so it is not one of those that had been.
  cases statement with
  | redeem id =>
    obtain ⟨row, found, unused⟩ := (Option.any_eq_true _ _).mp unspent
    refine inv.redeemed.concat (fun other used => Table.marked_update (Invite.used_id store.now) used fun _ _ => rfl) ?_ ?_
    · rintro ⟨other, same, used⟩
      cases found.symm.trans same
      rw [Option.isNone_iff_eq_none.mp unused] at used
      cases used
    · exact Table.marks_update (Invite.used_id store.now) (by rw [found]; rfl) fun _ => rfl
  | _ => exact inv.redeemed

/-- Exchanged tokens stay revoked. -/
theorem Single.next_revoked {calls : List SessionCall} (inv : Single store calls) (statement : SessionStatement) :
    ∀ row ∈ (statement.execute store).tokens, row.rotated = true → row.revokedAt.isSome = true := by
  intro row listed rotated
  cases statement with
  | insertToken username via =>
    rcases List.mem_append.mp listed with old | new
    · exact inv.revoked row old rotated
    · -- A new token has not been exchanged.
      rw [List.mem_singleton.mp new] at rotated
      cases rotated
  | rotate | revoke | revokeAll =>
    obtain ⟨old, before, rfl⟩ := List.mem_map.mp listed
    split at rotated
    · -- What is chosen is revoked now, and the rest stays as it was.
      rename_i chosen
      rw [if_pos chosen]
      rfl
    · rename_i other
      rw [if_neg other]
      exact inv.revoked old before rotated
  | _ => exact inv.revoked row listed rotated

/-- A recovery code is read off the account whose codes it is taken off. -/
theorem afterFactor_wellRead {now : Nat} {code recoveryCode : Option String} {found : Option Person} :
    (afterFactor ext now code recoveryCode found).WellRead := by
  unfold afterFactor
  repeat' split
  all_goals try trivial
  -- What is left is the branch in which a code was found in the array.
  rename_i user _ _ _ _ _ _ _ remaining consumes
  unfold consumeRecoveryCode at consumes
  cases codes : user.totpRecoveryCodeHashes with
  | none =>
    rw [codes] at consumes
    cases consumes
  | some hashes =>
    rw [codes] at consumes
    dsimp only at consumes
    split at consumes
    · rename_i among
      cases consumes
      refine ⟨?_, ?_⟩
      · rw [codes]
        exact List.contains_iff_mem.mp among
      · rw [codes]
        rfl
    · cases consumes

/-- What a request reads of a credential is good for spending it. -/
theorem Single.next_wellRead (inv : Single store (call :: others)) : (call.next ext store answer).2.WellRead := by
  have before := inv.wellRead call List.mem_cons_self
  rcases call.next_cases ext store answer with works | ⟨fails, response, caught⟩
  · rw [works]
    cases call with
    | readFactor mfaSessionToken code recoveryCode =>
      simp only [SessionCall.proceed]
      repeat' split
      · trivial
      · trivial
      · exact afterFactor_wellRead
    | validate number =>
      simp only [SessionCall.proceed]
      split
      · trivial
      · rename_i token found
        -- A token that had been exchanged would have been found revoked.
        have listed := List.mem_of_find?_eq_some found
        have valid := List.find?_some found
        simp only [Bool.and_eq_true, Option.isNone_iff_eq_none] at valid
        show token.rotated = false
        cases rotated : token.rotated with
        | false => rfl
        | true =>
          have revoked := inv.revoked token listed rotated
          rw [valid.1.2] at revoked
          cases revoked
    | readUser token =>
      simp only [SessionCall.proceed]
      split
      · trivial
      · exact before
    | findInvite session user inviteCode =>
      simp only [SessionCall.proceed]
      split
      · trivial
      · rename_i invite found
        -- The invite was selected as one that had not been used.
        have chosen := mem_of_firstBy (Option.filter_eq_some_iff.mp found).1
        have unused := (List.mem_filter.mp chosen).2
        simp only [Bool.and_eq_true, Option.isNone_iff_eq_none] at unused
        exact unused.1.2
    | otp inner =>
      simp only [SessionCall.proceed, Prod.map_snd]
      split <;> trivial
    | _ =>
      simp only [SessionCall.proceed, afterUser, afterPin, afterOnboarding, afterTarget, afterPassword]
      repeat' split
      all_goals trivial
  · rw [fails, caught]
    trivial

/-- A code that is right is not spent yet, where its row still is as it was read. -/
theorem otp_unspent {inner : OtpCall} (asRead : answer.fails = false → SessionCall.asRead ext store (.otp inner) = true) :
    (SessionStatement.otp (inner.next ext.otp store.otpStore answer.toOtpAnswer).1).spendsUnspent store = true := by
  cases statement : (inner.next ext.otp store.otpStore answer.toOtpAnswer).1 with
  | consume id fails =>
    obtain ⟨rfl, phone, code, row, rfl, rfl, good, right⟩ := next_compares (.inr statement)
    cases works : answer.fails with
    | true => rfl
    | false =>
      -- The row still is as it was read, and it was read unconsumed.
      have stands := asRead works
      simp only [SessionCall.asRead, right.mpr statement, ne_eq, not_true_eq_false, decide_false, Bool.false_or] at stands
      obtain ⟨later, found, same⟩ := (Option.any_eq_true _ _).mp stands
      have unconsumed : row.consumedAt = none := by
        unfold OtpCode.refusal at good
        split at good
        · cases good
        · rename_i free
          exact Option.not_isSome_iff_eq_none.mp free
      refine (Option.any_eq_true _ _).mpr ⟨later, found, ?_⟩
      rw [of_decide_eq_true same, unconsumed]
      rfl
  | _ => rfl

/-- What was good for spending a credential, and still stands, is not spent yet. -/
theorem SessionCall.next_unspent (wellRead : call.WellRead) (asRead : answer.fails = false → call.asRead ext store = true) :
    (call.next ext store answer).1.spendsUnspent store = true := by
  -- Four statements spend something, each over a row it has read.
  cases call with
  | otp inner => exact otp_unspent asRead
  | rotate user token =>
    simp only [SessionCall.next]
    split
    · rfl
    · -- The row is in the store as it was read.
      rename_i works
      obtain ⟨row, listed, stands⟩ := List.any_eq_true.mp (asRead (Bool.eq_false_of_not_eq_true works))
      obtain ⟨own, same⟩ := Bool.and_eq_true_iff.mp stands
      refine List.any_eq_true.mpr ⟨row, listed, Bool.and_eq_true_iff.mpr ⟨own, ?_⟩⟩
      rw [of_decide_eq_true same, wellRead]
      rfl
  | spendRecovery user remaining hash =>
    simp only [SessionCall.next]
    split
    · rfl
    · rename_i works
      obtain ⟨later, found, same⟩ := (Option.any_eq_true _ _).mp (asRead (Bool.eq_false_of_not_eq_true works))
      refine (Option.any_eq_true _ _).mpr ⟨later, found, ?_⟩
      rw [of_decide_eq_true same]
      exact Bool.and_eq_true_iff.mpr ⟨List.contains_iff_mem.mpr wellRead.1, decide_eq_true wellRead.2⟩
  | redeem session user invite =>
    simp only [SessionCall.next]
    split
    · rfl
    · rename_i works
      obtain ⟨later, found, same⟩ := (Option.any_eq_true _ _).mp (asRead (Bool.eq_false_of_not_eq_true works))
      refine (Option.any_eq_true _ _).mpr ⟨later, found, ?_⟩
      rw [of_decide_eq_true same, wellRead]
      rfl
  | _ =>
    simp only [SessionCall.next]
    repeat' split
    all_goals rfl

/-- What is kept is kept by a request that spends what still is as it was read. -/
theorem Single.next (inv : Single store (call :: others)) (asRead : answer.fails = false → call.asRead ext store = true) :
    Single ((call.next ext store answer).1.execute store) ((call.next ext store answer).2 :: others) := by
  -- Each part of the invariant is kept by a lemma of its own; the requests beside it have read what they had.
  have unspent := SessionCall.next_unspent (inv.wellRead call List.mem_cons_self) asRead
  refine ⟨inv.next_numbered _, inv.next_revoked _, (inv.next_codes unspent).1, inv.next_exchanged unspent,
    (inv.next_codes unspent).2, inv.next_verified unspent, inv.next_redeemed unspent, ?_⟩
  intro one member
  rcases List.mem_cons.mp member with rfl | other
  · exact inv.next_wellRead
  · exact inv.wellRead one (List.mem_cons_of_mem _ other)

/-- What happens outside the requests keeps what is kept. -/
theorem Single.happen {calls : List SessionCall} (inv : Single store calls) (event : SessionOutside) :
    Single (event.happen store) calls := by
  cases event with
  | wait elapsed => exact { inv with numbered := inv.numbered }
  | inviteDriver userId inviteCodeHash expiresAt =>
    refine { inv with redeemed := inv.redeemed.mono ?_ }
    intro id used
    -- Inviting a driver again uses up the invites before, and adds one with a new id.
    obtain ⟨row, found, is⟩ : ∃ row, (store.invites.updateWhere
        (fun row => row.userId = userId && row.usedAt.isNone) (Invite.used store.now)
        (Invite.used_id store.now)).find? id = some row ∧ row.usedAt.isSome = true :=
      Table.marked_updateWhere (Invite.used_id store.now) used fun _ _ => rfl
    exact ⟨row, Table.find?_insert_of_some found, is⟩
  | resetDriverPin id =>
    obtain ⟨distinct, accepted⟩ := @Single.kept_codes store ((SessionOutside.resetDriverPin id).happen store) calls inv
      (by
        intro username user stored
        simp only [SessionOutside.happen, Table.find?_updateWhere] at stored
        obtain ⟨old, was, rfl⟩ := Option.map_eq_some_iff.mp stored
        refine ⟨old, was, ?_⟩
        split <;> rfl)
      rfl
    exact { inv with distinct := distinct, accepted := accepted }

/-- A request that arrives has revoked nothing and read nothing. -/
theorem SessionEntry.start_unread (ext : SessionExternals) (entry : SessionEntry) :
    (entry.start ext).exchanging = none ∧ (entry.start ext).WellRead := by
  -- A request starts by refusing its input or by its first lookup.
  cases entry with
  | refresh token => cases token <;> exact ⟨rfl, trivial⟩
  | logout token => cases token <;> exact ⟨rfl, trivial⟩
  | login | changePassword | updateUserStatus =>
    simp only [SessionEntry.start]
    split <;> exact ⟨rfl, trivial⟩
  | _ => exact ⟨rfl, trivial⟩

/-- What is kept is kept by every event whose request spends what still is as it was read. -/
theorem single_keeps (ext : SessionExternals) : (sessionSystem ext).Keeps Single (SpendsAsRead ext) where
  perm same inv :=
    { inv with
      exchanged := inv.exchanged.perm ((same.filterMap _).append_left _)
      wellRead := fun call member => inv.wellRead call (same.mem_iff.mpr member) }
  moves := by
    intro pool index answer call others taken inv asRead
    exact inv.next (asRead call taken.found)
  arrives := by
    intro pool entry inv _
    obtain ⟨unrevoked, unread⟩ := entry.start_unread ext
    refine { inv with exchanged := ?_, wellRead := ?_ }
    · -- A request that has just come in has revoked nothing.
      have arriving : SessionCall.exchanging ((sessionSystem ext).start entry) = none := unrevoked
      rw [List.filterMap_cons_none arriving]
      exact inv.exchanged
    · intro call member
      rcases List.mem_cons.mp member with rfl | old
      · exact unread
      · exact inv.wellRead call old
  stops := by
    intro pool index call others _ inv _
    refine { inv with exchanged := ?_, wellRead := ?_ }
    · -- A request that is cut off takes along what it was exchanging.
      have stopping : SessionCall.exchanging (sessionSystem ext).stopped = none := rfl
      rw [List.filterMap_cons_none stopping]
      exact inv.exchanged.sublist (((List.sublist_cons_self call others).filterMap _).append_left _)
    · intro one member
      rcases List.mem_cons.mp member with rfl | other
      · trivial
      · exact inv.wellRead one (List.mem_cons_of_mem _ other)
  happens := fun inv _ _ => inv.happen _

end

/--
Credentials are used once, where no other request comes between what a request reads and what it spends.

Whatever requests are in flight, and however their statements interleave.
-/
theorem credentials_used_once {ext : SessionExternals} {pool : SessionPool} {events : List SessionEvent}
    (idle : pool.calls = []) (numbered : ∀ row ∈ pool.shared.tokens, row.number < pool.shared.serial)
    (revoked : ∀ row ∈ pool.shared.tokens, row.rotated = true → row.revokedAt.isSome = true)
    (distinct : ∀ user ∈ pool.shared.users.rows, (user.totpRecoveryCodeHashes.getD []).Nodup)
    (exchanged : pool.shared.exchanged = []) (accepted : pool.shared.accepted = [])
    (noted : pool.shared.otpNotes = []) (redeemed : pool.shared.redeemed = [])
    (asRead : Along (sessionSystem ext).step (SpendsAsRead ext) pool events) :
    Throughout (sessionSystem ext).step (fun pool => UsedOnce pool.shared) pool events := by
  have start : Single pool.shared pool.calls := by
    -- Nothing has been used yet, and no request is in flight.
    refine ⟨numbered, revoked, distinct, ?_, ?_, ?_, ?_, by simp [idle]⟩
    · rw [idle, exchanged]
      exact .nil
    · rw [accepted]
      exact .nil
    · rw [noted]
      exact .nil
    · rw [redeemed]
      exact .nil
  exact ((single_keeps ext).throughout start asRead).mono fun _ inv => inv.usedOnce

/-- A dispatcher with a session and two recovery codes, and a driver who has been invited. -/
def codesInHand : SessionPool where
  shared := {
    users := ⟨[
      { username := "dispatch1", passwordHash := some "password", role := .dispatcher, id := 1
        totpSecret := some "secret", totpRecoveryCodeHashes := some ["AAAA1111", "BBBB2222"] },
      { username := "driver1", passwordHash := none, role := .driver, id := 2
        phoneNumber := some "+250788123456" }], by decide⟩
    tokens := [{ number := 0, username := "dispatch1", expiresAt := 100, session := 0 }]
    invites := ⟨[{ id := 1, userId := 2, inviteCodeHash := "WELCOME", expiresAt := 100, createdAt := 0 }],
      List.nodup_singleton _⟩
    serial := 1 }
  calls := []

/-- One of each is used: a token, a recovery code, the code of a text and an invite. -/
def oneOfEach : List SessionEvent :=
  [.call (.refresh (some 0)), .run 0 {}, .run 0 {}, .run 0 {}, .run 0 {},
    .call (.verifyMfaLogin (some (signMfaSessionToken 0 "dispatch1")) none (some "AAAA1111")),
    .run 1 {}, .run 1 {}, .run 1 {},
    .call (.requestOtp "+250788123456"), .run 2 {}, .run 2 { draw := "123456" }, .run 2 {},
    .call (.verifyOtp "+250788123456" "123456"), .run 3 {}, .run 3 {}, .run 3 {},
    .call (.verifyInvite (some { phone := "+250788123456", expiresAt := 100 }) "WELCOME"),
    .run 4 {}, .run 4 {}, .run 4 {}, .run 4 {}]

/-- One token is sent to be exchanged twice, and looked up twice before it is revoked. -/
def exchangedTogether : List SessionEvent :=
  [.call (.refresh (some 0)), .call (.refresh (some 0)), .run 0 {}, .run 1 {}, .run 0 {}, .run 1 {}, .run 0 {},
    .run 1 {}, .run 0 {}, .run 1 {}]

/-- Two recovery codes are sent together, and the account is looked up for both before either is taken off. -/
def recoveredTogether : List SessionEvent :=
  [.call (.verifyMfaLogin (some (signMfaSessionToken 0 "dispatch1")) none (some "AAAA1111")),
    .call (.verifyMfaLogin (some (signMfaSessionToken 0 "dispatch1")) none (some "BBBB2222")),
    .run 0 {}, .run 1 {}, .run 0 {}, .run 1 {}]

/-- One of each is used, and used once. -/
theorem credentials_used_once_oneOfEach :
    Throughout (sessionSystem plainSessions).step (fun pool => UsedOnce pool.shared) codesInHand oneOfEach ∧
      (run (sessionSystem plainSessions).step codesInHand oneOfEach).shared.exchanged = [0] ∧
      (run (sessionSystem plainSessions).step codesInHand oneOfEach).shared.accepted = [("dispatch1", "AAAA1111")] ∧
      verifiedIds (run (sessionSystem plainSessions).step codesInHand oneOfEach).shared.otpNotes = [1] ∧
      (run (sessionSystem plainSessions).step codesInHand oneOfEach).shared.redeemed = [1] :=
  ⟨credentials_used_once rfl (by decide) (by decide) (by decide) rfl rfl rfl rfl (by decide +kernel), by decide +kernel,
    by decide +kernel, by decide +kernel, by decide +kernel⟩

/-- A token is exchanged twice, and a recovery code that was accepted is valid again. -/
theorem used_twice :
    ¬ (∀ (ext : SessionExternals) (pool : SessionPool) (events : List SessionEvent), pool.calls = [] →
      (∀ row ∈ pool.shared.tokens, row.number < pool.shared.serial) →
      (∀ row ∈ pool.shared.tokens, row.rotated = true → row.revokedAt.isSome = true) →
      (∀ user ∈ pool.shared.users.rows, (user.totpRecoveryCodeHashes.getD []).Nodup) →
      pool.shared.exchanged = [] → pool.shared.accepted = [] → pool.shared.otpNotes = [] →
      pool.shared.redeemed = [] →
      Throughout (sessionSystem ext).step (fun pool => UsedOnce pool.shared) pool events) ∧
    (run (sessionSystem plainSessions).step codesInHand exchangedTogether).shared.exchanged = [0, 0] ∧
    ("dispatch1", "AAAA1111") ∈
      (run (sessionSystem plainSessions).step codesInHand recoveredTogether).shared.accepted ∧
    ((run (sessionSystem plainSessions).step codesInHand recoveredTogether).shared.users.find? "dispatch1").map
      (fun user => user.totpRecoveryCodeHashes) = some (some ["AAAA1111"]) := by
  have twice : (run (sessionSystem plainSessions).step codesInHand exchangedTogether).shared.exchanged = [0, 0] := by
    decide +kernel
  refine ⟨fun always => ?_, twice, by decide +kernel, by decide +kernel⟩
  -- Two exchanges of one token are no list without repetition.
  have once := (always plainSessions codesInHand exchangedTogether rfl (by decide) (by decide) (by decide) rfl rfl rfl rfl).last
  have distinct := once.exchanged
  rw [twice] at distinct
  exact absurd distinct (by decide)

end Freight.Auth
