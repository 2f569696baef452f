import Freight.Library.Pool
import Freight.Payment.Store

/-! An incident report: its analysis, its acknowledgements, and what an open dashboard shows of it. -/

namespace Freight.Incidents

/-- Where dispatch is with a report. -/
inductive IncidentStatus where
  | opened
  | acknowledged
  | resolved
  deriving DecidableEq

/-- What the analysis of a report says. -/
structure Analysis where
  severity : Option String := none
  suspectedInjury : Bool := false
  vehicleDriveable : Bool := true
  suggestedTitle : Option String := none
  summary : Option String := none
  deriving DecidableEq

/-- A driver's own report in `geofence_alerts`: the columns every write returns. -/
structure Incident where
  id : Nat
  orderId : Option Nat := none
  driverName : String
  description : String
  status : IncidentStatus := .opened
  resolvedBy : Option String := none
  resolvedAt : Option Nat := none
  createdAt : Nat
  photoUrl : Option String := none
  lat : Option ℚ := none
  lng : Option ℚ := none
  severity : Option String := none
  aiAnalysis : Option Analysis := none
  deriving DecidableEq

/-- The row, what has been emitted of it as `incident:status-updated`, and the list of a dashboard. -/
structure Watched where
  row : Incident
  emitted : List Incident := []
  dashboard : List Incident
  deriving DecidableEq

/-- The outside code the controller relies on. -/
structure IncidentConfig where
  /-- The language's own table of upper-case forms. -/
  upper : Char → Text
  /-- The link to a stored photo, for a while. -/
  toSignedUrl : Option String → Option String

/-- `prev.map((i) => (i.id === updated.id ? updated : i))`. -/
def replaceIncident (updated : Incident) (incidents : List Incident) : List Incident :=
  incidents.map fun incident => if incident.id = updated.id then updated else incident

/-- What `emitIncident` makes of a row. -/
def Incident.signed (cfg : IncidentConfig) (incident : Incident) : Incident :=
  { incident with photoUrl := cfg.toSignedUrl incident.photoUrl }

/-- What a driver wrote in a report, and what stands in for what they left out. -/
structure Report where
  ownTitle : Option String := none
  ownDescription : Option String := none
  fallbackTitle : String
  fallbackDescription : String
  deriving DecidableEq

/-- A text that is more than blanks, trimmed. -/
def written (text : Option String) : Option String :=
  Payment.present (text.map fun text => String.ofList (trim text.toList))

/-- The driver's own words win; the analysis only fills in what they left blank. -/
def Report.description (report : Report) (late : Analysis) : String :=
  ((written report.ownTitle).or (Payment.present late.suggestedTitle)).getD report.fallbackTitle ++ "\n\n" ++
    ((written report.ownDescription).or (Payment.present late.summary)).getD report.fallbackDescription

/-- What the analysis writes. -/
def Incident.patched (incident : Incident) (report : Report) (late : Analysis) : Incident :=
  { incident with
    description := report.description late
    severity := Payment.present late.severity
    aiAnalysis := some late }

/-- What a change of status writes. -/
def Incident.marked (incident : Incident) (status : IncidentStatus) (reviewer : String) (now : Nat) : Incident :=
  { incident with
    status := status
    resolvedBy := if status = .resolved then some reviewer else incident.resolvedBy
    resolvedAt := if status = .resolved then some now else incident.resolvedAt }

/-- A call in flight, at the await it has reached. -/
inductive IncidentCall where
  /-- `finalizeIncidentAnalysis`, waiting for the analysis. -/
  | awaitAnalysis (report : Report)
  /-- About to write what the analysis says. -/
  | patch (report : Report) (late : Analysis)
  /-- Signing the photo of the row it wrote. -/
  | signPatched (incident : Incident)
  /-- Alerting dispatch, with nothing left to tell a dashboard. -/
  | alertDispatch
  /-- `updateIncidentStatus`, about to write the status. -/
  | setStatus (status : IncidentStatus) (reviewer : String)
  /-- Looking up what its driver is called. -/
  | describeDriver (incident : Incident) (reviewer : String)
  | appendAuditLog (incident : Incident) (reviewer : String)
  /-- Signing the photo of the row it wrote. -/
  | signMarked (incident : Incident)
  | finished
  /-- An error was thrown, or its process stopped. -/
  | failed
  deriving DecidableEq

/-- What is called. -/
inductive IncidentEntry where
  | finalizeIncidentAnalysis (report : Report)
  | updateIncidentStatus (status : Text) (username : Option String)

/-- The answer to an await. -/
structure IncidentAnswer where
  fails : Bool := false
  analysis : Option Analysis := none
  now : Nat := 0

/-- `status.toUpperCase()`, where that is an allowed one. -/
def allowedStatus (cfg : IncidentConfig) (status : Text) : Option IncidentStatus :=
  let normalized := toUpperCase cfg.upper status
  if normalized = "OPEN".toList then some .opened
  else if normalized = "ACKNOWLEDGED".toList then some .acknowledged
  else if normalized = "RESOLVED".toList then some .resolved
  else none

/-- Where a call begins. -/
def IncidentEntry.start (cfg : IncidentConfig) : IncidentEntry → IncidentCall
  | .finalizeIncidentAnalysis report => .awaitAnalysis report
  | .updateIncidentStatus status username =>
    match allowedStatus cfg status with
    | some status => .setStatus status ((Payment.present username).getD "System")
    -- 400.
    | none => .finished

/-- What a step of a call does. -/
inductive IncidentStatement where
  | nothing
  /-- An `UPDATE` that leaves this row, and returns it. -/
  | write (incident : Incident)
  /-- `incident:status-updated`. -/
  | emit (incident : Incident)

/-- A statement, and what it makes of the row and of the dashboard that listens. -/
def IncidentStatement.execute (statement : IncidentStatement) (incidents : Watched) : Watched :=
  match statement with
  | .nothing => incidents
  | .write incident => { incidents with row := incident }
  -- The dashboard takes whatever it is sent, in the order it is sent.
  | .emit incident =>
    { incidents with
      emitted := incidents.emitted ++ [incident]
      dashboard := replaceIncident incident incidents.dashboard }

/-- What a call does next, and the await it gets to. -/
def IncidentCall.next (cfg : IncidentConfig) (incidents : Watched) (answer : IncidentAnswer) :
    IncidentCall → IncidentStatement × IncidentCall
  | .awaitAnalysis report =>
    match answer.analysis with
    | some late => (.nothing, .patch report late)
    | none => (.nothing, .alertDispatch)
  | .patch report late =>
    if answer.fails then (.nothing, .failed)
    else
      let patched := incidents.row.patched report late
      (.write patched, .signPatched patched)
  | .signPatched incident =>
    if answer.fails then (.nothing, .failed) else (.emit (incident.signed cfg), .alertDispatch)
  | .alertDispatch => (.nothing, .finished)
  | .setStatus status reviewer =>
    if answer.fails then (.nothing, .failed)
    else
      let marked := incidents.row.marked status reviewer answer.now
      (.write marked, .describeDriver marked reviewer)
  | .describeDriver incident reviewer =>
    if answer.fails then (.nothing, .failed) else (.nothing, .appendAuditLog incident reviewer)
  | .appendAuditLog incident _ => if answer.fails then (.nothing, .failed) else (.nothing, .signMarked incident)
  -- What is emitted is the row as this call left it, however long ago.
  | .signMarked incident =>
    if answer.fails then (.nothing, .failed) else (.emit (incident.signed cfg), .finished)
  | .finished => (.nothing, .finished)
  | .failed => (.nothing, .failed)

/-- All calls on one incident, interleaved at their awaits. -/
def incidentSystem (cfg : IncidentConfig) :
    CallSystem Watched IncidentStatement IncidentEntry IncidentCall IncidentAnswer Empty Unit where
  start := IncidentEntry.start cfg
  next := IncidentCall.next cfg
  execute := IncidentStatement.execute
  holds _ := []
  needs _ := []
  outside := Empty.elim
  outsideNeeds := Empty.elim
  stopped := .failed

/-- An incident that has been reported, on a dashboard that shows it among others. -/
def reported (cfg : IncidentConfig) (row : Incident) (others : List Incident) : Pool Watched IncidentCall where
  shared := { row := row, dashboard := replaceIncident (row.signed cfg) others }
  calls := []

/-- What a dashboard shows is the row, and so is what was emitted last. -/
structure Shown (cfg : IncidentConfig) (incidents : Watched) : Prop where
  last : ∀ updated ∈ incidents.emitted.getLast?, updated = incidents.row.signed cfg
  listed : ∀ incident ∈ incidents.dashboard, incident.id = incidents.row.id → incident = incidents.row.signed cfg

/-- Once every call has finished without error, the dashboard shows the row. -/
def Truthful (cfg : IncidentConfig) (pool : Pool Watched IncidentCall) : Prop :=
  (∀ call ∈ pool.calls, call = .finished) → Shown cfg pool.shared

/-- The row a call has written and has still to emit. -/
def IncidentCall.unsent : IncidentCall → Option Incident
  | .signPatched incident | .describeDriver incident _ | .appendAuditLog incident _ | .signMarked incident =>
    some incident
  | _ => none

/-- A call owes the dashboard an event: it has one still to emit, or it failed. -/
def IncidentCall.owes (call : IncidentCall) : Bool := call.unsent.isSome || decide (call = .failed)

/-- The row a call is about to emit. -/
def IncidentCall.emits : IncidentCall → Option Incident
  | .signPatched incident | .signMarked incident => some incident
  | _ => none

/-- Wherever no call owes an event, the dashboard shows the row. -/
def UpToDate (cfg : IncidentConfig) (pool : Pool Watched IncidentCall) : Prop :=
  (∀ call ∈ pool.calls, call.owes = false) → Shown cfg pool.shared

/-- The condition on an event: a call that emits while no other call owes an event emits the row as it is stored. -/
def EmitsCurrent (pool : Pool Watched IncidentCall) :
    PoolEvent IncidentEntry IncidentAnswer Empty → Prop
  | .run index answer => ∀ call ∈ pool.calls[index]?, ∀ incident ∈ call.emits, answer.fails = false →
    (∀ other ∈ pool.calls.eraseIdx index, other.owes = false) → incident = pool.shared.row
  | _ => True

section Steps

variable {cfg : IncidentConfig} {pool : Pool Watched IncidentCall} {index : Nat} {answer : IncidentAnswer}
  {call : IncidentCall} {watched : Watched}

/-- A call that runs takes its step at once, and is put in its place. -/
theorem step_run (found : pool.calls[index]? = some call) :
    (incidentSystem cfg).step pool (.run index answer) =
      { shared := ((call.next cfg pool.shared answer).1).execute pool.shared
        calls := pool.calls.set index (call.next cfg pool.shared answer).2 } := by
  -- No row is locked here, so no call waits for another.
  have free : (incidentSystem cfg).Free [] (pool.calls.eraseIdx index) := fun _ _ _ listed =>
    absurd listed List.not_mem_nil
  simp only [CallSystem.step, found]
  exact if_pos free

/-- The calls behind a step: the one that ran, and the others. -/
theorem forall_set {holds : IncidentCall → Prop} (found : pool.calls[index]? = some call) (next : IncidentCall) :
    (∀ other ∈ pool.calls.set index next, holds other) ↔
      holds next ∧ ∀ other ∈ pool.calls.eraseIdx index, holds other := by
  -- The list with the call put in its place is that call and the others, in another order.
  obtain ⟨within, -⟩ := List.getElem?_eq_some_iff.mp found
  rw [← List.forall_mem_cons]
  exact forall_congr' fun other => by rw [(List.set_perm_cons_eraseIdx within next).mem_iff]

/-- What a step of a call is: it leaves things be, writes the row, or emits the one it wrote. -/
theorem next_cases (cfg : IncidentConfig) (watched : Watched) (answer : IncidentAnswer) (call : IncidentCall) :
    (∃ next, call.next cfg watched answer = (.nothing, next) ∧ (call.emits = none ∨ answer.fails = true) ∧
        (next = .failed ∨ next.owes = call.owes ∧ (next.unsent = none ∨ next.unsent = call.unsent))) ∨
      (∃ row next, call.next cfg watched answer = (.write row, next) ∧ call.emits = none ∧ next.unsent = some row ∧
        row.id = watched.row.id ∧ row.photoUrl = watched.row.photoUrl) ∨
      ∃ row next, call.next cfg watched answer = (.emit (row.signed cfg), next) ∧ call.emits = some row ∧
        call.unsent = some row ∧ answer.fails = false ∧ next.owes = false ∧ next.unsent = none := by
  cases call with
  | awaitAnalysis report =>
    simp only [IncidentCall.next]
    cases answer.analysis <;> exact .inl ⟨_, rfl, .inl rfl, .inr ⟨rfl, .inl rfl⟩⟩
  | alertDispatch | finished | failed => exact .inl ⟨_, rfl, .inl rfl, .inr ⟨rfl, .inl rfl⟩⟩
  | patch report late | setStatus status reviewer =>
    simp only [IncidentCall.next]
    split
    · exact .inl ⟨_, rfl, .inl rfl, .inl rfl⟩
    · exact .inr (.inl ⟨_, _, rfl, rfl, rfl, rfl, rfl⟩)
  | describeDriver row reviewer | appendAuditLog row reviewer =>
    simp only [IncidentCall.next]
    split
    · exact .inl ⟨_, rfl, .inl rfl, .inl rfl⟩
    · exact .inl ⟨_, rfl, .inl rfl, .inr ⟨rfl, .inr rfl⟩⟩
  | signPatched row | signMarked row =>
    simp only [IncidentCall.next]
    split
    · rename_i failed
      exact .inl ⟨_, rfl, .inr failed, .inl rfl⟩
    · -- The URL is signed, and what is emitted is the row that was written.
      rename_i passes
      exact .inr (.inr ⟨_, _, rfl, rfl, rfl, by simpa using passes, rfl, rfl⟩)

/-- A call begins with nothing written. -/
theorem start_unsent (cfg : IncidentConfig) (entry : IncidentEntry) :
    (entry.start cfg).unsent = none ∧ (entry.start cfg).owes = false := by
  -- A status that is no status is answered at once, with nothing written.
  cases entry with
  | finalizeIncidentAnalysis report => exact ⟨rfl, rfl⟩
  | updateIncidentStatus status username =>
    simp only [IncidentEntry.start]
    split <;> exact ⟨rfl, rfl⟩

/-- What every call has still to emit is this incident, with the photo it was reported with. -/
def SameReport (pool : Pool Watched IncidentCall) : Prop :=
  ∀ call ∈ pool.calls, ∀ row ∈ call.unsent, row.id = pool.shared.row.id ∧ row.photoUrl = pool.shared.row.photoUrl

/-- Rows with one photo are one row when they are one with the photo signed. -/
theorem signed_inj {one other : Incident} (photo : one.photoUrl = other.photoUrl)
    (same : one.signed cfg = other.signed cfg) : one = other := by
  -- Signing touches the photo alone.
  cases one
  cases other
  simp only [Incident.signed, Incident.mk.injEq] at same photo ⊢
  simp_all

/-- After an event for it, a dashboard shows what the event carries, and nothing else in its place. -/
theorem listed_replace {updated incident : Incident} {list : List Incident}
    (member : incident ∈ replaceIncident updated list) (same : incident.id = updated.id) : incident = updated := by
  -- What is shown under the id of the event is the event itself.
  obtain ⟨before, -, rfl⟩ := List.mem_map.mp member
  by_cases own : before.id = updated.id
  · exact if_pos own
  · rw [if_neg own] at same
    exact absurd same own

/-- When the last event carries the row, the dashboard that listened shows the row. -/
theorem shown_emit_iff {row : Incident} (photo : row.photoUrl = watched.row.photoUrl) :
    Shown cfg ((IncidentStatement.emit (row.signed cfg)).execute watched) ↔ row = watched.row := by
  -- The event is the last that was sent, so what it carries is what is shown.
  have last : ((IncidentStatement.emit (row.signed cfg)).execute watched).emitted.getLast? =
      some (row.signed cfg) := by
    simp [IncidentStatement.execute]
  constructor
  · exact fun shown => signed_inj photo (shown.last _ last)
  · rintro rfl
    refine ⟨fun updated is_last => ?_, fun incident member same => listed_replace member same⟩
    rw [last] at is_last
    exact (Option.some.inj is_last).symm

/-- A step keeps what calls have to emit about the one incident. -/
theorem step_sameReport (same : SameReport pool) (event : PoolEvent IncidentEntry IncidentAnswer Empty) :
    SameReport ((incidentSystem cfg).step pool event) := by
  cases event with
  | outside event => exact event.elim
  -- A call that begins has written nothing that it would emit.
  | call entry =>
    intro call member row unsent
    rcases List.mem_append.mp member with old | new
    · exact same call old row unsent
    · obtain rfl := List.mem_singleton.mp new
      rw [show ((incidentSystem cfg).start entry).unsent = none from (start_unsent cfg entry).1] at unsent
      cases unsent
  -- One that is broken off emits nothing any more.
  | stop index =>
    intro call member row unsent
    rcases List.mem_or_eq_of_mem_set member with old | rfl
    · exact same call old row unsent
    · cases unsent
  | run index answer =>
    cases found : pool.calls[index]? with
    | none => simpa only [CallSystem.step, found] using same
    -- What other calls hold is as before; what is held by the one that moved is new.
    | some call =>
      rw [step_run found]
      have there := List.mem_of_getElem? found
      -- The step leaves things be, writes the row, or emits it.
      rcases next_cases cfg pool.shared answer call with
        ⟨next, steps, -, owed⟩ | ⟨row, next, steps, -, holds, id, photo⟩ | ⟨row, next, steps, -, -, -, -, none⟩ <;>
        rw [steps]
      · intro other member held unsent
        rcases List.mem_or_eq_of_mem_set member with old | rfl
        · exact same other old held unsent
        · rcases owed with rfl | ⟨-, none | kept⟩
          · cases unsent
          · rw [none] at unsent
            cases unsent
          · exact same call there held (kept ▸ unsent)
      · intro other member held unsent
        rcases List.mem_or_eq_of_mem_set member with old | rfl
        · obtain ⟨own, picture⟩ := same other old held unsent
          exact ⟨own.trans id.symm, picture.trans photo.symm⟩
        · rw [holds] at unsent
          cases unsent
          exact ⟨rfl, rfl⟩
      · intro other member held unsent
        rcases List.mem_or_eq_of_mem_set member with old | rfl
        · exact same other old held unsent
        · rw [none] at unsent
          cases unsent

/-- A step leaves the dashboard up to date exactly when what it emits, while no other call owes an event, is current. -/
theorem step_upToDate_iff (same : SameReport pool) (upToDate : UpToDate cfg pool)
    (event : PoolEvent IncidentEntry IncidentAnswer Empty) :
    UpToDate cfg ((incidentSystem cfg).step pool event) ↔ EmitsCurrent pool event := by
  cases event with
  | outside event => exact event.elim
  | call entry =>
    refine iff_of_true (fun quiet => ?_) trivial
    exact upToDate fun call member => quiet call (List.mem_append_left _ member)
  | stop index =>
    refine iff_of_true (fun quiet => ?_) trivial
    cases found : pool.calls[index]? with
    | none =>
      -- There is no such call, so none stops.
      have unchanged : pool.calls.set index .failed = pool.calls :=
        List.set_eq_of_length_le (List.getElem?_eq_none_iff.mp found)
      have all : ∀ call ∈ pool.calls.set index .failed, call.owes = false := quiet
      rw [unchanged] at all
      exact upToDate all
    | some call => cases ((forall_set found .failed).mp quiet).1
  | run index answer =>
    cases found : pool.calls[index]? with
    | none =>
      refine iff_of_true ?_ fun call there => ?_
      · simpa only [CallSystem.step, found] using upToDate
      · rw [found] at there
        cases there
    | some call =>
      rw [step_run found]
      unfold UpToDate EmitsCurrent
      simp only [found, Option.mem_some_iff, forall_eq']
      rcases next_cases cfg pool.shared answer call with
        ⟨next, steps, silent, owed⟩ | ⟨row, next, steps, silent, holds, -, -⟩ |
          ⟨row, next, steps, emits, unsent, passes, settled, -⟩ <;>
        rw [steps]
      · refine iff_of_true (fun quiet => ?_) fun row emits passes => ?_
        · rw [forall_set found] at quiet
          rcases owed with rfl | ⟨owes, -⟩
          · cases quiet.1
          · refine upToDate fun other member => ?_
            have all : ∀ other ∈ call :: pool.calls.eraseIdx index, other.owes = false :=
              List.forall_mem_cons.mpr ⟨owes ▸ quiet.1, quiet.2⟩
            obtain ⟨within, at_⟩ := List.getElem?_eq_some_iff.mp found
            exact all other (at_ ▸ (List.getElem_cons_eraseIdx_perm within).mem_iff.mpr member)
        · rcases silent with none | fails
          · rw [none] at emits
            cases emits
          · rw [fails] at passes
            cases passes
      · refine iff_of_true (fun quiet => ?_) fun row emits => ?_
        · -- Having written the row, the call owes an event.
          have owes := ((forall_set found next).mp quiet).1
          rw [IncidentCall.owes, holds] at owes
          cases owes
        · rw [silent] at emits
          cases emits
      · -- What is emitted carries the row's own photo, so it is current where the row is.
        have photo := (same call (List.mem_of_getElem? found) row unsent).2
        rw [forall_set found, shown_emit_iff photo, settled, emits, passes]
        constructor
        · rintro current row emits - quiet
          cases emits
          exact current ⟨rfl, quiet⟩
        · exact fun current both => current row rfl rfl both.2

end Steps

/--
In every interleaving, the dashboard shows the row wherever no call owes it an event exactly when no call emits,
while it is the only one to owe an event, a row that is not stored any more; and then it shows the row once every
call has finished without error.
-/
theorem dashboard_shows_row (cfg : IncidentConfig) (row : Incident) (others : List Incident)
    (events : List (PoolEvent IncidentEntry IncidentAnswer Empty)) :
    (Throughout (incidentSystem cfg).step (UpToDate cfg) (reported cfg row others) events ↔
      Along (incidentSystem cfg).step EmitsCurrent (reported cfg row others) events) ∧
    (Along (incidentSystem cfg).step EmitsCurrent (reported cfg row others) events →
      Throughout (incidentSystem cfg).step (Truthful cfg) (reported cfg row others) events) := by
  have initial : SameReport (reported cfg row others) ∧ UpToDate cfg (reported cfg row others) := by
    refine ⟨fun call none => absurd none List.not_mem_nil, fun _ => ⟨fun _ none => ?_, fun _ member same => ?_⟩⟩
    · cases none
    · exact listed_replace member same
  have both := @throughout_iff_of_invariant _ _ (incidentSystem cfg).step
    (fun pool => SameReport pool ∧ UpToDate cfg pool) (UpToDate cfg) EmitsCurrent (fun _ held => held.2)
    (fun pool event held => (step_upToDate_iff held.1 held.2 event).mp)
    (fun pool event held current =>
      ⟨step_sameReport held.1 event, (step_upToDate_iff held.1 held.2 event).mpr current⟩)
    _ events initial
  refine ⟨both, fun along => (both.mpr along).mono fun pool upToDate finished => upToDate fun call member => ?_⟩
  -- A call that has finished owes nothing.
  rw [finished call member]
  rfl

/-- A report that has just come in. -/
def rolledOver : Incident where
  id := 4
  driverName := "driver1"
  description := "Incident report\n\nTruck on its side."
  createdAt := 0

/-- Dispatch acknowledges it, and its analysis crosses the acknowledgement. -/
def crossing : List (PoolEvent IncidentEntry IncidentAnswer Empty) :=
  [.call (.finalizeIncidentAnalysis
      { fallbackTitle := "Incident report", fallbackDescription := "Truck on its side." }),
    .call (.updateIncidentStatus "acknowledged".toList (some "dispatcher1")),
    .run 0 { analysis := some { severity := some "high" } },
    -- The status is written before the analysis is, and emitted after it.
    .run 1 {}, .run 0 {}, .run 0 {}, .run 0 {}, .run 1 {}, .run 1 {}, .run 1 {}]

/-- A deployment without photo links. -/
def plainDesk : IncidentConfig where
  upper char := [char.toUpper]
  toSignedUrl := id

/-- Where the crossing ends. -/
def crossed : Pool Watched IncidentCall :=
  run (incidentSystem plainDesk).step (reported plainDesk rolledOver [rolledOver]) crossing

/-- The acknowledgement blanks the severity that the analysis had put there. -/
theorem severity_blanked : ¬ ∀ (cfg : IncidentConfig) (row : Incident) (others : List Incident)
    (events : List (PoolEvent IncidentEntry IncidentAnswer Empty)),
    Throughout (incidentSystem cfg).step (Truthful cfg) (reported cfg row others) events := by
  intro all
  have truthful : Truthful plainDesk crossed := (all plainDesk rolledOver [rolledOver] crossing).last
  have shown := truthful (by decide +kernel)
  -- The last event was signed before the analysis wrote, and the row since has its severity.
  have blank : crossed.shared.emitted.getLast?.map Incident.severity = some none := by decide +kernel
  have assessed : crossed.shared.row.severity = some "high" := by decide +kernel
  obtain ⟨last, is_last, severity⟩ := Option.map_eq_some_iff.mp blank
  have same : (crossed.shared.row.signed plainDesk).severity = none := shown.last last is_last ▸ severity
  have kept : (crossed.shared.row.signed plainDesk).severity = crossed.shared.row.severity := rfl
  rw [kept, assessed] at same
  cases same

end Freight.Incidents
