import MoistureLoop.StateMachine.SessionChange
import MoistureLoop.StateMachine.StoredZone

/-! # The end of a soak

T25 and the completions T24 and T26 to T28 need a report from after the soak, and the clock
has to have reached the end of the soak.  The deadline, an evaluation and a grant compare the
clock; a report and the grace deadline do not, so that a report with a timestamp ahead of the
clock ends the soak too early. -/

open MoistureLoop.Action

namespace MoistureLoop

namespace StateMachine

/-- T24 to T28: the rows that a qualifying recheck can decide. -/
def recheckRows : List (Option String) :=
  [some "T24", some "T25", some "T26", some "T27", some "T28"]

/-- T29 to T31: the rows that end a soak with a sensor fault. -/
def sensorFaultRows : List (Option String) := [some "T29", some "T30", some "T31"]

/-- The soak of the session ends at the instant: its pulse was confirmed OFF, and the full
soak has passed since. -/
def SoakEnds (soakDurationS : Seconds) (session : SessionContext) (ends : Instant) : Prop :=
  ∃ offAt, session.offConfirmedAtUtc = some offAt ∧ ends = offAt + soakDurationS

/-- The decision does not end the soak before its time. -/
structure SoakIntact (inp : TransitionInput) (session : SessionContext) (decision : Decision) :
    Prop where
  /-- A recheck is decided after the soak, on a fresh report from after the soak. -/
  rechecked : turnOn ∈ decision.actions ∨ decision.transitionId ∈ recheckRows →
    freshValid inp = true ∧ ∃ ends reportedAt, SoakEnds inp.config.soakDurationS session ends ∧
      ends ≤ inp.nowUtc ∧ inp.observation.reportedAtUtc = some reportedAt ∧ ends ≤ reportedAt
  /-- A report shows a sensor fault only after the soak. -/
  faulted : ∀ observation, inp.event = .moistureReport observation →
    decision.transitionId ∈ sensorFaultRows →
    ∃ ends, SoakEnds inp.config.soakDurationS session ends ∧ ends ≤ inp.nowUtc

/-- A recheck ends the soak: the target is reached, a limit is exhausted, or the next pulse
can start at once. -/
def RecheckEnds (inp : TransitionInput) (session : SessionContext) : Prop :=
  (∃ value, inp.observation.value = some value ∧ inp.config.targetThreshold ≤ value) ∨
    inp.config.maxCycles ≤ session.cycle ∨ sessionFits inp session = false ∨
    dailyFits inp = false ∨ (inp.actuator.available = true ∧ inp.resource.slotGranted = true ∧
      inp.resource.blockersEmpty = true ∧ inp.actuator.provenOff = true)

/-- The clock has not reached the end of the soak, and the event shows a report from after it,
or the current one is, on which the soak ends. -/
structure EndsEarly (inp : TransitionInput) (session : SessionContext) : Prop where
  uncommitted : session.pendingTerminationReason = none
  early : ∀ ends, session.soakEndsAtUtc = some ends → inp.nowUtc < ends
  shown : (∃ observation ends, inp.event = .moistureReport observation ∧
      session.soakEndsAtUtc = some ends ∧ ends ≤ effectiveAt inp observation ∧
      (observation.classification = .invalid ∨ observation.classification = .unavailable ∨
        (postQualifies inp = true ∧ RecheckEnds inp session))) ∨
    (inp.event = .graceDeadlineReached ∧ postQualifies inp = true ∧
      RecheckEnds inp session)

def SoakDue (soakDurationS : Seconds) (state : ControllerState) (session : SessionContext) : Prop :=
  state = .soaking → ∃ ends, SoakEnds soakDurationS session ends ∧
    session.soakEndsAtUtc = some ends ∧ session.recheckNotBeforeUtc = some ends

variable {inp : TransitionInput} {decision : Decision} {session : SessionContext}

/-- Only T6 starts a soak, and what happens in it moves no deadline. -/
theorem soakDue_rule (soakDurationS : Seconds) :
    SessionRule (fun inp => inp.config.soakDurationS = soakDurationS) (SoakDue soakDurationS) where
  starts := by
    rintro inp decision session - - - - - ⟨⟩
  changes := by
    rintro inp decision before after rfl due change soaking
    cases change with
    | confirmed state _ _ stays | committed state _ _ stays | recovering state _ stays =>
      rw [stays, Option.getD_none, state] at soaking
      cases soaking
    | refreshed _ _ _ enters | unproven _ _ enters =>
      rw [enters] at soaking
      cases soaking
    | @soaked offAt => exact ⟨_, ⟨offAt, rfl, rfl⟩, rfl, rfl⟩
    | rechecked state | interfered state | adopted state => exact due state
  rests := fun _ _ away soaking => absurd soaking away
  estimated := fun due => due
  commanded := fun _ due _ => due
  failed := by
    rintro state session - ⟨⟩

theorem soakingRecheck_rows (decided : soakingRecheck inp session = .ok decision) :
    (turnOn ∈ decision.actions ∨ decision.transitionId ∈ recheckRows ↔
      RecheckEnds inp session) ∧ decision.transitionId ∉ sensorFaultRows := by
  unfold soakingRecheck at decided
  split at decided
  · cases decided
  · rename_i value observed
    simp only at decided
    split at decided
    · rename_i reached
      obtain rfl := Except.ok.inj decided
      have ends : RecheckEnds inp session := .inl ⟨value, observed, reached⟩
      simp [finalizeSoakingCompletion, recheckRows, sensorFaultRows, ends]
    · rename_i dry
      split at decided
      · rename_i exhausted
        obtain rfl := Except.ok.inj decided
        have ends : RecheckEnds inp session := .inr (.inl (by simpa using exhausted))
        simp [finalizeSoakingCompletion, recheckRows, sensorFaultRows, ends]
      · rename_i cycles
        split at decided
        · rename_i exhausted
          obtain rfl := Except.ok.inj decided
          have ends : RecheckEnds inp session :=
            .inr (.inr (.inl (by simpa [sessionFits] using exhausted)))
          simp [finalizeSoakingCompletion, recheckRows, sensorFaultRows, ends]
        · rename_i runtime
          split at decided
          · rename_i exhausted
            obtain rfl := Except.ok.inj decided
            have ends : RecheckEnds inp session :=
              .inr (.inr (.inr (.inl (by simpa using exhausted))))
            simp [finalizeSoakingCompletion, recheckRows, sensorFaultRows, ends]
          · rename_i daily
            have goesOn : ¬ (inp.actuator.available = true ∧ inp.resource.slotGranted = true ∧
                inp.resource.blockersEmpty = true ∧ inp.actuator.provenOff = true) →
                ¬ RecheckEnds inp session := by
              rintro waits (⟨_, shown, reached⟩ | exhausted | exhausted | exhausted | free)
              · obtain rfl := Option.some.inj (observed.symm.trans shown)
                exact dry reached
              · exact cycles (by simpa using exhausted)
              · exact runtime (by simpa [sessionFits] using exhausted)
              · exact daily (by simpa using exhausted)
              · exact waits free
            split at decided
            · rename_i lost
              obtain rfl := Except.ok.inj decided
              have lost : inp.actuator.available = false := by simpa using lost
              have waits := goesOn (by simp [lost])
              simp [finalizeSoakingFault, recheckRows, sensorFaultRows, waits]
            · rename_i available
              have available : inp.actuator.available = true := by simpa using available
              split at decided
              · rename_i taken
                obtain rfl := Except.ok.inj decided
                have waits := goesOn (by rintro ⟨-, granted, free, off⟩; simp [granted, free, off] at taken)
                simp [recheckRows, sensorFaultRows, waits]
              · rename_i free
                simp only [Bool.not_eq_true', Bool.not_eq_false, Bool.and_eq_true] at free
                have ends : RecheckEnds inp session :=
                  .inr (.inr (.inr (.inr ⟨available, free.1.1, free.1.2, free.2⟩)))
                obtain ⟨_, -, row, -⟩ := startAutoPulse_next decided
                simp [row, recheckRows, sensorFaultRows, ends]

theorem SoakIntact.of_other (starts : turnOn ∉ decision.actions)
    (row : decision.transitionId ∉ recheckRows) (fault : decision.transitionId ∉ sensorFaultRows) :
    SoakIntact inp session decision :=
  ⟨fun ends => absurd ends (not_or.mpr ⟨starts, row⟩), fun _ _ faulted => absurd faulted fault⟩

theorem reported_of_postQualifies {ends : Instant} (held : inp.session = some session)
    (notBefore : session.recheckNotBeforeUtc = some ends) (qualifies : postQualifies inp = true) :
    ∃ reportedAt, inp.observation.reportedAtUtc = some reportedAt ∧ ends ≤ reportedAt := by
  simp only [postQualifies, held, notBefore] at qualifies
  cases reported : inp.observation.reportedAtUtc with
  | none => simp [reported] at qualifies
  | some reportedAt =>
    simp only [reported, Bool.and_eq_true, decide_eq_true_eq] at qualifies
    exact ⟨reportedAt, rfl, qualifies.2⟩

/-- A qualifying recheck is in time exactly when the clock is, or it does not end the soak. -/
theorem soakIntact_recheck {ends : Instant} (held : inp.session = some session)
    (due : SoakEnds inp.config.soakDurationS session ends)
    (notBefore : session.recheckNotBeforeUtc = some ends) (qualifies : postQualifies inp = true)
    (rechecked : soakingRecheck inp session = .ok decision) :
    SoakIntact inp session decision ↔ (RecheckEnds inp session → ends ≤ inp.nowUtc) := by
  obtain ⟨rows, fault⟩ := soakingRecheck_rows rechecked
  constructor
  · rintro ⟨intact, -⟩ decides
    obtain ⟨-, ends', -, ⟨offAt, off, rfl⟩, reached, -⟩ := intact (rows.mpr decides)
    obtain ⟨offAt', off', rfl⟩ := due
    obtain rfl := Option.some.inj (off.symm.trans off')
    exact reached
  · intro reached
    refine ⟨fun decides => ⟨freshValid_of_postQualifies qualifies, ?_⟩,
      fun _ _ faulted => absurd faulted fault⟩
    obtain ⟨reportedAt, reported, late⟩ := reported_of_postQualifies held notBefore qualifies
    exact ⟨ends, reportedAt, due, reached (rows.mp decides), reported, late⟩

/-- A sensor fault that a report shows is in time exactly when the clock is. -/
theorem soakIntact_fault {ends : Instant} {row : String} {fault : FaultCode}
    {observation : MoistureObservation} (due : SoakEnds inp.config.soakDurationS session ends)
    (event : inp.event = .moistureReport observation) (faults : some row ∈ sensorFaultRows)
    (other : some row ∉ recheckRows) :
    SoakIntact inp session (finalizeSoakingFault session row .sensorFault fault) ↔
      ends ≤ inp.nowUtc := by
  constructor
  · rintro ⟨-, intact⟩
    obtain ⟨ends', ⟨offAt, off, rfl⟩, reached⟩ := intact observation event faults
    obtain ⟨offAt', off', rfl⟩ := due
    obtain rfl := Option.some.inj (off.symm.trans off')
    exact reached
  · intro reached
    refine ⟨fun decides => ?_, fun _ _ _ => ⟨ends, due, reached⟩⟩
    rcases decides with starts | row
    · simp [finalizeSoakingFault] at starts
    · exact absurd row other

theorem soakIntact_moisture {ends : Instant} {observation : MoistureObservation}
    (held : inp.session = some session) (uncommitted : session.pendingTerminationReason = none)
    (event : inp.event = .moistureReport observation)
    (due : SoakEnds inp.config.soakDurationS session ends)
    (soaks : session.soakEndsAtUtc = some ends)
    (notBefore : session.recheckNotBeforeUtc = some ends)
    (decided : soakingMoisture inp session observation = .ok decision) :
    SoakIntact inp session decision ↔ ¬ EndsEarly inp session := by
  have early_iff : EndsEarly inp session ↔ inp.nowUtc < ends ∧ ends ≤ effectiveAt inp observation ∧
      (observation.classification = .invalid ∨ observation.classification = .unavailable ∨
        (postQualifies inp = true ∧ RecheckEnds inp session)) := by
    constructor
    · rintro ⟨-, early, ⟨observation', ends', event', soaks', late, shown⟩ | ⟨event', -⟩⟩
      · obtain rfl := ControllerEvent.moistureReport.inj (event.symm.trans event')
        obtain rfl := Option.some.inj (soaks.symm.trans soaks')
        exact ⟨early ends soaks, late, shown⟩
      · cases event.symm.trans event'
    · rintro ⟨early, late, shown⟩
      refine ⟨uncommitted, fun ends' soaks' => ?_, .inl ⟨observation, ends, event, soaks, late, shown⟩⟩
      obtain rfl := Option.some.inj (soaks.symm.trans soaks')
      exact early
  simp only [soakingMoisture, soaks] at decided
  rw [early_iff]
  split at decided
  · rename_i before
    obtain rfl := Except.ok.inj decided
    have intact : SoakIntact inp session
        { transitionId := some "T22", newState := some .soaking } :=
      .of_other (by simp) (by simp [recheckRows]) (by simp [sensorFaultRows])
    simp [intact, before]
  · rename_i late
    have late : ends ≤ effectiveAt inp observation := not_lt.mp late
    split at decided
    · rename_i invalid
      obtain rfl := Except.ok.inj decided
      rw [soakIntact_fault due event (by simp [sensorFaultRows]) (by simp [recheckRows])]
      simp [late, invalid]
    · rename_i valid
      split at decided
      · rename_i lost
        obtain rfl := Except.ok.inj decided
        rw [soakIntact_fault due event (by simp [sensorFaultRows]) (by simp [recheckRows])]
        simp [late, lost]
      · rename_i available
        split at decided
        · rename_i qualifies
          rw [soakIntact_recheck held due notBefore qualifies decided]
          have shown : (observation.classification = .invalid ∨
              observation.classification = .unavailable ∨
              (postQualifies inp = true ∧ RecheckEnds inp session)) ↔ RecheckEnds inp session := by
            simp [valid, available, qualifies]
          rw [shown]
          exact ⟨fun reached ⟨early, _, recheckEnds⟩ => absurd early (not_lt.mpr (reached recheckEnds)),
            fun inTime recheckEnds => not_lt.mp fun early => inTime ⟨early, late, recheckEnds⟩⟩
        · rename_i unqualified
          obtain rfl := Except.ok.inj decided
          have intact : SoakIntact inp session noOp :=
            .of_other (by simp [noOp]) (by simp [noOp, recheckRows]) (by simp [noOp, sensorFaultRows])
          simp [intact, valid, available, unqualified]

theorem soakIntact_grace {ends : Instant} (held : inp.session = some session)
    (uncommitted : session.pendingTerminationReason = none)
    (event : inp.event = .graceDeadlineReached)
    (due : SoakEnds inp.config.soakDurationS session ends)
    (soaks : session.soakEndsAtUtc = some ends)
    (notBefore : session.recheckNotBeforeUtc = some ends)
    (decided : soakingGrace inp session = .ok decision) :
    SoakIntact inp session decision ↔ ¬ EndsEarly inp session := by
  have early_iff : EndsEarly inp session ↔ inp.nowUtc < ends ∧ postQualifies inp = true ∧
      RecheckEnds inp session := by
    constructor
    · rintro ⟨-, early, ⟨_, _, event', -⟩ | ⟨-, shown⟩⟩
      · cases event.symm.trans event'
      · exact ⟨early ends soaks, shown⟩
    · rintro ⟨early, shown⟩
      refine ⟨uncommitted, fun ends' soaks' => ?_, .inr ⟨event, shown⟩⟩
      obtain rfl := Option.some.inj (soaks.symm.trans soaks')
      exact early
  rw [early_iff]
  by_cases qualifies : postQualifies inp = true
  · simp only [soakingGrace, if_pos qualifies] at decided
    rw [soakIntact_recheck held due notBefore qualifies decided]
    exact ⟨fun reached ⟨early, _, recheckEnds⟩ => absurd early (not_lt.mpr (reached recheckEnds)),
      fun inTime recheckEnds => not_lt.mp fun early => inTime ⟨early, qualifies, recheckEnds⟩⟩
  · refine iff_of_true ?_ fun ⟨_, shown, _⟩ => qualifies shown
    obtain ⟨shown, -⟩ | ⟨row, fault, rfl, row⟩ := soakingGrace_cases decided
    · exact absurd shown qualifies
    · refine ⟨fun decides => ?_, fun observation event' => ?_⟩
      · rcases row with rfl | rfl | rfl <;> simp [finalizeSoakingFault, recheckRows] at decides
      · cases event.symm.trans event'

theorem soakIntact_deadline {ends : Instant} (held : inp.session = some session)
    (due : SoakEnds inp.config.soakDurationS session ends)
    (soaks : session.soakEndsAtUtc = some ends)
    (notBefore : session.recheckNotBeforeUtc = some ends)
    (decided : soakingDeadlineOrEvaluate inp session = .ok decision) :
    SoakIntact inp session decision := by
  obtain ⟨ends', soaks', waits | ⟨reached, qualifies, rechecked⟩⟩ :=
    soakingDeadlineOrEvaluate_cases decided
  · have row := waits.row
    refine .of_other waits.silent ?_ ?_
    · simp only [List.mem_cons, List.not_mem_nil, or_false] at row
      rcases row with row | row | row <;> simp [row, recheckRows]
    · simp only [List.mem_cons, List.not_mem_nil, or_false] at row
      rcases row with row | row | row <;> simp [row, sensorFaultRows]
  · obtain rfl := Option.some.inj (soaks.symm.trans soaks')
    exact (soakIntact_recheck held due notBefore qualifies rechecked).mpr fun _ => reached

theorem startupPersistedSoaking_silent {trusted : Bool} {runId : Option String}
    {unsafeFault : Option FaultCode}
    (decided : startupPersistedSoakingRow inp session trusted runId unsafeFault = .ok decision) :
    turnOn ∉ decision.actions ∧
      (decision.transitionId = some "T50" ∨ decision.transitionId = some "T51") := by
  simp only [startupPersistedSoakingRow] at decided
  split at decided
  · split at decided
    · cases decided
    · cases decided
    · cases decided
    · obtain rfl := Except.ok.inj decided
      refine ⟨?_, .inl rfl⟩
      simp only
      split
      · simp
      · split <;> simp
  · obtain rfl := Except.ok.inj decided
    refine ⟨?_, .inr rfl⟩
    cases unsafeFault <;> simp

/-- With a committed termination only OFF evidence is decided on, and nothing ends early. -/
theorem soakIntact_committed {reason : CompletionReason} (soaking : inp.state = .soaking)
    (held : inp.session = some session)
    (pending : session.pendingTerminationReason = some reason)
    (decided : decide inp = .ok decision) : SoakIntact inp session decision := by
  cases event : inp.event with
  | storeIntegrityLost =>
    simp only [decide, event, Except.ok.injEq] at decided
    subst decided
    exact .of_other (by simp [integrityLost]) (by simp [integrityLost, recheckRows])
      (by simp [integrityLost, sensorFaultRows])
  | configurationInvalid atSetup =>
    cases atSetup <;>
    · simp only [decide, event, soaking, decideSoaking, held, pending, Option.isSome_some,
        if_true, Except.ok.injEq] at decided
      subst decided
      exact .of_other (by simp [noOp, configurationInvalidRow])
        (by simp [noOp, configurationInvalidRow, recheckRows])
        (by simp [noOp, configurationInvalidRow, sensorFaultRows])
  | offConfirmed | externalActuatorOff =>
    simp only [decide, event, soaking, decideSoaking, held, pending, Option.isSome_some,
      if_true, Except.ok.injEq] at decided
    subst decided
    exact .of_other (by simp [finalizeSoakingExternal])
      (by simp [finalizeSoakingExternal, recheckRows])
      (by simp [finalizeSoakingExternal, sensorFaultRows])
  | offNotConfirmed =>
    simp only [decide, event, soaking, decideSoaking, held, pending, Option.isSome_some,
      if_true, Except.ok.injEq] at decided
    subst decided
    exact .of_other (by simp [soakingOffNotConfirmed])
      (by simp [soakingOffNotConfirmed, recheckRows])
      (by simp [soakingOffNotConfirmed, sensorFaultRows])
  | _ =>
    simp only [decide, event, soaking, decideSoaking, held, pending, Option.isSome_some,
      if_true, Except.ok.injEq] at decided
    subst decided
    exact .of_other (by simp [noOp]) (by simp [noOp, recheckRows])
      (by simp [noOp, sensorFaultRows])

/-- In SOAKING a decision is in time exactly when the clock is not early for its report. -/
theorem soakIntact_iff {soakDurationS : Seconds} (soaking : inp.state = .soaking)
    (held : inp.session = some session) (same : inp.config.soakDurationS = soakDurationS)
    (due : SoakDue soakDurationS inp.state session) (decided : decide inp = .ok decision) :
    SoakIntact inp session decision ↔ ¬ EndsEarly inp session := by
  subst same
  obtain ⟨ends, due, soaks, notBefore⟩ := due soaking
  -- The other events decide no recheck and no sensor fault.
  have other (unseen : ¬ EndsEarly inp session) (starts : turnOn ∉ decision.actions)
      (row : decision.transitionId ∉ recheckRows) (fault : decision.transitionId ∉ sensorFaultRows) :
      SoakIntact inp session decision ↔ ¬ EndsEarly inp session :=
    iff_of_true (.of_other starts row fault) unseen
  cases pending : session.pendingTerminationReason with
  | some reason =>
    have unseen : ¬ EndsEarly inp session := fun early => by
      simpa [pending] using early.uncommitted
    exact iff_of_true (soakIntact_committed soaking held pending decided) unseen
  | none =>
    have unseen (report : ∀ observation, inp.event ≠ .moistureReport observation)
        (grace : inp.event ≠ .graceDeadlineReached) : ¬ EndsEarly inp session := by
      rintro ⟨-, -, ⟨observation, _, shown, -⟩ | ⟨shown, -⟩⟩
      · exact report observation shown
      · exact grace shown
    cases event : inp.event with
    | moistureReport observation =>
      simp only [decide, event, soaking, decideSoaking, held, pending, Option.isSome_none,
        Bool.false_eq_true, if_false] at decided
      exact soakIntact_moisture held pending event due soaks notBefore decided
    | graceDeadlineReached =>
      simp only [decide, event, soaking, decideSoaking, held, pending, Option.isSome_none,
        Bool.false_eq_true, if_false] at decided
      exact soakIntact_grace held pending event due soaks notBefore decided
    | soakDeadlineReached | autoEvaluate | slotGranted =>
      simp only [decide, event, soaking, decideSoaking, held, pending, Option.isSome_none,
        Bool.false_eq_true, if_false] at decided
      exact iff_of_true (soakIntact_deadline held due soaks notBefore decided)
        (unseen (by simp [event]) (by simp [event]))
    | storeIntegrityLost =>
      simp only [decide, event, Except.ok.injEq] at decided
      subst decided
      exact other (unseen (by simp [event]) (by simp [event])) (by simp [integrityLost])
        (by simp [integrityLost, recheckRows]) (by simp [integrityLost, sensorFaultRows])
    | configurationInvalid atSetup =>
      cases atSetup <;>
      · simp only [decide, event, soaking, decideSoaking, held, pending, Option.isSome_none,
          Bool.false_eq_true, if_false, Except.ok.injEq] at decided
        subst decided
        exact other (unseen (by simp [event]) (by simp [event]))
          (by simp [noOp, configurationInvalidRow])
          (by simp [noOp, configurationInvalidRow, recheckRows])
          (by simp [noOp, configurationInvalidRow, sensorFaultRows])
    | startupPersistedSoaking trusted runId unsafeFault =>
      have silent : turnOn ∉ decision.actions ∧
          (decision.transitionId = some "T50" ∨ decision.transitionId = some "T51") := by
        simp only [decide, event, soaking, decideSoaking, held, pending, Option.isSome_none,
          Bool.false_eq_true, if_false] at decided
        exact startupPersistedSoaking_silent decided
      obtain ⟨starts, row⟩ := silent
      refine other (unseen (by simp [event]) (by simp [event])) starts ?_ ?_ <;>
        rcases row with row | row <;> simp [row, recheckRows, sensorFaultRows]
    | _ =>
      simp only [decide, event, soaking, decideSoaking, held, pending, Option.isSome_none,
        Bool.false_eq_true, if_false, Except.ok.injEq] at decided
      subst decided
      exact other (unseen (by simp [event]) (by simp [event]))
        (by simp [noOp, finalizeSoakingFault, finalizeSoakingCancel])
        (by simp [noOp, finalizeSoakingFault, finalizeSoakingCancel, recheckRows])
        (by simp [noOp, finalizeSoakingFault, finalizeSoakingCancel, sensorFaultRows])

end StateMachine

/-! ## Observations of a sensor -/

/-- What the state of a sensor entity says. -/
inductive SensorReading where
  | unavailable
  /-- `unknown`, or no finite number. -/
  | malformed
  | number (value : Moisture)
  deriving DecidableEq, Repr

/-- `classify_moisture`. -/
def classifyMoisture (reading : SensorReading) (reportedAtUtc : Option Instant) (nowUtc : Instant)
    (sensorMaxAgeS : Seconds) : MoistureObservation :=
  match reading with
  | .unavailable => ⟨none, .unavailable, none⟩
  | .malformed => ⟨none, .invalid, reportedAtUtc⟩
  | .number value =>
    if value < 0 ∨ 100 < value then ⟨some value, .invalid, reportedAtUtc⟩
    else match reportedAtUtc with
      -- A value without a report timestamp cannot prove anything.
      | none => ⟨some value, .invalid, none⟩
      | some reportedAt =>
        let classified := MoistureObservation.mk (some value) .valid (some reportedAt)
        if classified.isFresh nowUtc sensorMaxAgeS then classified
        else { classified with classification := .stale }

/-! ## Runs of a zone and what is stored of it -/

namespace RecordedZone

open StateMachine (SoakDue SoakIntact EndsEarly)

variable {recorded next start finish : RecordedZone} {label : RecordLabel} {soakDurationS : Seconds}

/-- Every decision sees the same soak duration. -/
def FixedSoak (soakDurationS : Seconds) (recorded : RecordedZone) (label : RecordLabel)
    (next : RecordedZone) : Prop :=
  match label with
  | .zone label =>
    recorded.zone.Decides (fun input => input.config.soakDurationS = soakDurationS) label next.zone
  | _ => True

/-- The soaking session, and the stored one, have the deadlines of the last pulse. -/
structure SoaksDue (soakDurationS : Seconds) (recorded : RecordedZone) : Prop where
  zone : recorded.zone.Holds (SoakDue soakDurationS)
  stored : ∀ session, recorded.stored.session = some session →
    SoakDue soakDurationS recorded.stored.state session

theorem SoaksDue.step (due : recorded.SoaksDue soakDurationS)
    (stepped : recorded.step label = some next)
    (fixed : FixedSoak soakDurationS recorded label next) : next.SoaksDue soakDurationS := by
  obtain ⟨zone, stored⟩ := due
  cases label with
  | zone label =>
    obtain ⟨moved, steps, rfl⟩ := Option.map_eq_some_iff.mp stepped
    exact ⟨zone.step (StateMachine.soakDue_rule soakDurationS) steps fixed, stored⟩
  | persist =>
    simp only [RecordedZone.step] at stepped
    split at stepped
    · cases stepped
    · obtain rfl := Option.some.inj stepped
      exact ⟨zone, zone⟩
  | restart =>
    obtain rfl := Option.some.inj stepped
    have loaded : ∀ session, recorded.stored.load.session = some session →
        SoakDue soakDurationS recorded.stored.load.state session := by
      intro session held
      obtain ⟨kept, known, rfl⟩ := Option.map_eq_some_iff.mp held
      exact stored kept known
    exact ⟨loaded, loaded⟩
  | rewritten actuatorFault acknowledgementRequired state enabled zoneFault secondaryFault
      keepsSession =>
    simp only [RecordedZone.step, Option.ite_none_right_eq_some, Option.some.injEq] at stepped
    obtain ⟨away, rfl⟩ := stepped
    refine ⟨zone, fun session held soaking => ?_⟩
    cases keepsSession with
    | true => exact absurd soaking (away rfl).2
    | false => cases held

/-- In every soak that a run from a zone without a session reaches, over restarts too: a
decision keeps the soak intact exactly when its event does not end it early. -/
theorem soakIntact_iff_of_run (reached : system.Run (FixedSoak soakDurationS) start finish)
    (idle : start.zone.session = none) (unstored : start.stored.session = none)
    {input : TransitionInput} {decision : Decision} {session : SessionContext}
    (feeds : finish.zone.Feeds input) (same : input.config.soakDurationS = soakDurationS)
    (soaking : finish.zone.state = .soaking) (held : finish.zone.session = some session)
    (decided : StateMachine.decide input = .ok decision) :
    SoakIntact input session decision ↔ ¬ EndsEarly input session := by
  have due : finish.SoaksDue soakDurationS := reached.preserves
    ⟨fun _ held => (by simp [idle] at held), fun _ held => (by simp [unstored] at held)⟩
    fun _ _ _ due stepped fixed => due.step stepped fixed
  obtain ⟨state, -, shown, -⟩ := feeds
  refine StateMachine.soakIntact_iff (state.trans soaking) (shown.trans held) same ?_ decided
  rw [state]
  exact due.zone session held

/-! ## A report ahead of the clock -/

def resting : RecordedZone where
  zone := Zone.atRest
  stored := { state := .idle, enabled := true }

def watering : Zone := Zone.atRest.decideWith (Zone.atRest.sampleInput .autoEvaluate) Zone.adopt

/-- Its pulse is confirmed OFF at 100, to soak until 700. -/
def soaking : Zone := watering.decideWith (watering.sampleInput (.offConfirmed 100)) Zone.adopt

theorem soaking_reached : system.Run (FixedSoak 600) resting { resting with zone := soaking } := by
  have started : system.step resting (.zone (.decide (Zone.atRest.sampleInput .autoEvaluate))) =
      some { resting with zone := watering } := by decide +kernel
  have confirmed : system.step { resting with zone := watering }
      (.zone (.decide (watering.sampleInput (.offConfirmed 100)))) =
      some { resting with zone := soaking } := by decide +kernel
  refine .step _ (.step _ .refl started ?_) confirmed ?_ <;>
  · rintro input decides
    obtain rfl := Option.some.inj decides
    rfl

/-- A report at the time of the OFF, with a timestamp, as the sensor is classified. -/
def reportInput (reportedAtUtc : Instant) : TransitionInput :=
  let observation := classifyMoisture (.number 10) (some reportedAtUtc) 100 3600
  { soaking.sampleInput (.moistureReport observation) with observation := observation }

/-- A report with the time of the clock ends no soak. -/
theorem soakIntact_iff_of_run_report :
    ∃ session decision, soaking.session = some session ∧
      StateMachine.decide (reportInput 100) = .ok decision ∧
      (SoakIntact (reportInput 100) session decision ↔ ¬ EndsEarly (reportInput 100) session) := by
  obtain ⟨session, held⟩ := Option.isSome_iff_exists.mp
    (show soaking.session.isSome = true by decide +kernel)
  obtain ⟨decision, decided⟩ : ∃ decision, StateMachine.decide (reportInput 100) = .ok decision := by
    have decides : (StateMachine.decide (reportInput 100)).toOption.isSome = true := by decide +kernel
    cases decided : StateMachine.decide (reportInput 100) with
    | error err =>
      rw [decided] at decides
      cases decides
    | ok decision => exact ⟨decision, rfl⟩
  exact ⟨session, decision, held, decided, soakIntact_iff_of_run soaking_reached rfl rfl
    (show soaking.Feeds (reportInput 100) by decide +kernel) rfl
    (show soaking.state = .soaking by decide +kernel) held decided⟩

/-- A report ten minutes ahead of the clock starts the next pulse with the OFF of the last. -/
theorem not_soakIntact_report_ahead :
    ¬ ∀ (soakDurationS : Seconds) (start finish : RecordedZone) (input : TransitionInput)
      (decision : Decision) (session : SessionContext),
      system.Run (FixedSoak soakDurationS) start finish → start.zone.session = none →
      start.stored.session = none → finish.zone.Feeds input →
      input.config.soakDurationS = soakDurationS → finish.zone.state = .soaking →
      finish.zone.session = some session → StateMachine.decide input = .ok decision →
      SoakIntact input session decision := by
  intro claimed
  obtain ⟨session, held, off⟩ := (Option.any_eq_true _ _).mp
    (show (soaking.session.any fun session => session.offConfirmedAtUtc = some 100) = true by
      decide +kernel)
  have starts : ((StateMachine.decide (reportInput 700)).toOption.any fun decision =>
      turnOn ∈ decision.actions) = true := by decide +kernel
  cases decided : StateMachine.decide (reportInput 700) with
  | error err =>
    rw [decided] at starts
    cases starts
  | ok decision =>
    rw [decided] at starts
    have starts : turnOn ∈ decision.actions := of_decide_eq_true starts
    have intact := claimed 600 resting { resting with zone := soaking } (reportInput 700) decision
      session soaking_reached rfl rfl (show soaking.Feeds (reportInput 700) by decide +kernel) rfl
      (show soaking.state = .soaking by decide +kernel) held decided
    obtain ⟨-, ends, -, ⟨offAt, confirmed, rfl⟩, reached, -⟩ := intact.rechecked (.inl starts)
    have off : session.offConfirmedAtUtc = some 100 := of_decide_eq_true off
    obtain rfl := Option.some.inj (off.symm.trans confirmed)
    exact absurd reached (by decide +kernel)

end RecordedZone

end MoistureLoop
