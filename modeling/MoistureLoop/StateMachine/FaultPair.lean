import MoistureLoop.StateMachine.Starts
import MoistureLoop.StateMachine.StoredZone
import MoistureLoop.Store.Updates

/-! # The stored fault pair

A controller write splits the two fault slots into the actuator fault of the record and the
two faults of the zone, and a new controller puts them together again.  That works for every
pair but one that repeats a fault: a sensor fault stays in the second slot when the actuator
fault over it is cleared, and can be latched again in the first one. -/

open MoistureLoop.Action

namespace MoistureLoop

open Checked (Holds)

namespace StateMachine

/-- The sensor fault with which a soak ends on a report or at the grace deadline. -/
def soakFault (inp : TransitionInput) (session : SessionContext) : Option FaultCode :=
  match inp.event with
  | .moistureReport observation =>
    session.soakEndsAtUtc.bind fun soakEnds =>
      if effectiveAt inp observation < soakEnds then none
      else if observation.classification = .invalid then some .sensorInvalid
      else if observation.classification = .unavailable then some .sensorUnavailable
      else none
  | .graceDeadlineReached =>
    if postQualifies inp then none
    else session.soakEndsAtUtc.map fun soakEnds =>
      if inp.observation.classification = .invalid ∧ soakEnds ≤ effectiveAt inp inp.observation then
        .sensorInvalid
      else if inp.observation.classification = .unavailable then .sensorUnavailable
      else .sensorStale
  | _ => none

def Finalizes (inp : TransitionInput) (session : SessionContext) (reason : CompletionReason) :
    Prop :=
  (∃ offAt extraActions, Evidence inp session reason offAt extraActions) ∨
    (inp.event = .startupPersistedWatering .off ∧ reason = .restartRecovery)

inductive LatchesFault (inp : TransitionInput) : FaultCode → Prop where
  | configuring {atSetup : Bool} : inp.event = .configurationInvalid atSetup →
      atSetup = true ∨ inp.state = .idle ∨ inp.state = .fault →
      LatchesFault inp .configurationInvalid
  | watering {session : SessionContext} {reason : CompletionReason} {fault : FaultCode}
      {defensive : Bool} : inp.state = .watering → inp.session = some session →
      session.pendingTerminationReason = none →
      Trigger inp session reason (some fault) defensive → LatchesFault inp fault
  | soaking {session : SessionContext} {fault : FaultCode} : inp.state = .soaking →
      inp.session = some session → session.pendingTerminationReason = none →
      soakFault inp session = some fault → LatchesFault inp fault
  | restored {session : SessionContext} {runId : Option String} {fault : FaultCode} :
      inp.state = .soaking → inp.session = some session →
      session.pendingTerminationReason = none →
      inp.event = .startupPersistedSoaking false runId (some fault) → LatchesFault inp fault
  | retained {session : SessionContext} {reason : CompletionReason} {fault : SensorFault} :
      inp.state = .watering → inp.session = some session →
      session.retainedSensorFault = some fault → freshValid inp = false →
      Finalizes inp session reason →
      reason = .manualComplete ∨ (inp.enabled = true ∧ inp.activeFault = none ∧
        reason ≠ .zoneDisabled ∧ reason ≠ .sensorFault ∧ reason ≠ .actuatorFault) →
      LatchesFault inp fault.val

/-- The decision of the input repeats no fault. -/
structure KeepsPair (inp : TransitionInput) : Prop where
  /-- A fault of the zone that the second slot holds is not latched again. -/
  latching : ∀ fault, inp.secondaryFault = some fault → ¬ LatchesFault inp fault
  /-- No session is finalized as ACTUATOR_FAULT while its retained fault is the active one. -/
  superseding : ∀ session (fault : SensorFault), inp.state = .watering →
    inp.session = some session → session.retainedSensorFault = some fault →
    inp.activeFault = some fault.val → ¬ Finalizes inp session .actuatorFault

variable {inp : TransitionInput} {decision : Decision}

theorem startAutoPulse_faults {session : Option SessionContext}
    (decided : startAutoPulse inp session = .ok decision) :
    decision.fault = none ∧ decision.secondaryFault = none := by
  unfold startAutoPulse at decided
  split at decided
  · cases decided
  · split at decided
    · split at decided
      · cases decided
      · obtain rfl := Except.ok.inj decided
        exact ⟨rfl, rfl⟩
    · obtain rfl := Except.ok.inj decided
      exact ⟨rfl, rfl⟩

theorem manualStart_faults {requestedS : Option Seconds} {row : String}
    (decided : manualStart inp requestedS row = .ok decision) :
    decision.fault = none ∧ decision.secondaryFault = none := by
  simp only [manualStart] at decided
  split at decided
  · split at decided
    · obtain rfl := Except.ok.inj decided
      exact ⟨rfl, rfl⟩
    · split at decided
      · cases decided
      · obtain rfl := Except.ok.inj decided
        exact ⟨rfl, rfl⟩
  · obtain rfl := Except.ok.inj decided
    exact ⟨rfl, rfl⟩

theorem zoneFault_of_retained {session : SessionContext} {fault : FaultCode}
    (retained : session.retainedSensorFault.map Subtype.val = some fault) :
    fault.isZoneFault = true := by
  obtain ⟨sensor, -, rfl⟩ := Option.map_eq_some_iff.mp retained
  exact FaultCode.isZoneFault_of_isSensorOnly sensor.property

/-! ## The faults that end a soak -/

inductive RechecksSoak (inp : TransitionInput) (session : SessionContext) : Prop where
  | reported {observation : MoistureObservation} {soakEnds : Instant} :
      inp.event = .moistureReport observation → session.soakEndsAtUtc = some soakEnds →
      soakEnds ≤ effectiveAt inp observation → observation.classification ≠ .invalid →
      observation.classification ≠ .unavailable → RechecksSoak inp session
  | due {soakEnds : Instant} :
      inp.event = .soakDeadlineReached ∨ inp.event = .autoEvaluate ∨ inp.event = .slotGranted →
      session.soakEndsAtUtc = some soakEnds → soakEnds ≤ inp.nowUtc → RechecksSoak inp session
  | grace : inp.event = .graceDeadlineReached → RechecksSoak inp session

/-- The session needs a pulse and has the budgets for it, but not the actuator. -/
structure LacksActuator (inp : TransitionInput) (session : SessionContext) : Prop where
  dry : ∃ value, inp.observation.value = some value ∧ value < inp.config.targetThreshold
  cycles : session.cycle < inp.config.maxCycles
  fits : sessionFits inp session = true ∧ dailyFits inp = true
  unavailable : inp.actuator.available = false

/-- The faults that an event sets on a session in SOAKING with no committed reason. -/
inductive SoakFaults (inp : TransitionInput) (session : SessionContext) : FaultCode → Prop where
  | sensor {fault : FaultCode} : soakFault inp session = some fault → SoakFaults inp session fault
  | lost : inp.event = .actuatorBecameUnavailable → SoakFaults inp session .actuatorUnavailable
  | unready : RechecksSoak inp session → postQualifies inp = true → LacksActuator inp session →
      SoakFaults inp session .actuatorUnavailable
  | configuring : inp.event = .configurationInvalid true →
      SoakFaults inp session .configurationInvalid
  | integrity : inp.event = .storeIntegrityLost →
      SoakFaults inp session .restoredFromUnsafeState
  | restored {runId : Option String} {fault : FaultCode} :
      inp.event = .startupPersistedSoaking false runId (some fault) → SoakFaults inp session fault

variable {session : SessionContext} {fault : FaultCode}

theorem soakingRecheck_fault (latched : decision.fault = some fault)
    (decided : soakingRecheck inp session = .ok decision) :
    fault = .actuatorUnavailable ∧ LacksActuator inp session := by
  unfold soakingRecheck at decided
  split at decided
  · cases decided
  · rename_i value observed
    simp only at decided
    split at decided
    · obtain rfl := Except.ok.inj decided
      cases latched
    · rename_i dry
      split at decided
      · obtain rfl := Except.ok.inj decided
        cases latched
      · rename_i cycles
        split at decided
        · obtain rfl := Except.ok.inj decided
          cases latched
        · rename_i fits
          split at decided
          · obtain rfl := Except.ok.inj decided
            cases latched
          · rename_i daily
            split at decided
            · rename_i unavailable
              obtain rfl := Except.ok.inj decided
              simp only [Bool.not_eq_true', decide_eq_false_iff_not, not_not,
                Bool.not_eq_false] at cycles fits daily unavailable
              exact ⟨(Option.some.inj latched).symm, ⟨value, observed, not_le.mp dry⟩, cycles,
                ⟨fits, daily⟩, unavailable⟩
            · split at decided
              · obtain rfl := Except.ok.inj decided
                cases latched
              · rw [(startAutoPulse_faults decided).1] at latched
                cases latched

theorem SoakFaults.of_recheck (rechecks : RechecksSoak inp session)
    (qualified : postQualifies inp = true) (latched : decision.fault = some fault)
    (decided : soakingRecheck inp session = .ok decision) : SoakFaults inp session fault := by
  obtain ⟨rfl, lacks⟩ := soakingRecheck_fault latched decided
  exact .unready rechecks qualified lacks

theorem soakingMoisture_faults {observation : MoistureObservation}
    (event : inp.event = .moistureReport observation) (latched : decision.fault = some fault)
    (decided : soakingMoisture inp session observation = .ok decision) :
    SoakFaults inp session fault := by
  unfold soakingMoisture at decided
  split at decided
  · cases decided
  · rename_i soakEnds soaks
    split at decided
    · obtain rfl := Except.ok.inj decided
      cases latched
    · rename_i late
      split at decided
      · rename_i invalid
        obtain rfl := Except.ok.inj decided
        refine .sensor ?_
        simp only [soakFault, event, soaks, Option.bind_some, if_neg late, if_pos invalid]
        exact latched
      · rename_i valid
        split at decided
        · rename_i lost
          obtain rfl := Except.ok.inj decided
          refine .sensor ?_
          simp only [soakFault, event, soaks, Option.bind_some, if_neg late, if_neg valid,
            if_pos lost]
          exact latched
        · rename_i available
          split at decided
          · rename_i qualified
            exact .of_recheck (.reported event soaks (not_lt.mp late) valid available) qualified
              latched decided
          · obtain rfl := Except.ok.inj decided
            cases latched

theorem soakingDeadlineOrEvaluate_faults
    (event : inp.event = .soakDeadlineReached ∨ inp.event = .autoEvaluate ∨
      inp.event = .slotGranted) (latched : decision.fault = some fault)
    (decided : soakingDeadlineOrEvaluate inp session = .ok decision) :
    SoakFaults inp session fault := by
  unfold soakingDeadlineOrEvaluate at decided
  split at decided
  · cases decided
  · rename_i soakEnds soaks
    split at decided
    · obtain rfl := Except.ok.inj decided
      cases latched
    · rename_i late
      split at decided
      · rename_i qualified
        exact .of_recheck (.due event soaks (not_lt.mp late)) qualified latched decided
      · split at decided
        · obtain rfl := Except.ok.inj decided
          cases latched
        · split at decided
          · split at decided
            · cases decided
            · obtain rfl := Except.ok.inj decided
              cases latched
          · obtain rfl := Except.ok.inj decided
            cases latched

theorem soakingGrace_faults (event : inp.event = .graceDeadlineReached)
    (latched : decision.fault = some fault) (decided : soakingGrace inp session = .ok decision) :
    SoakFaults inp session fault := by
  unfold soakingGrace at decided
  split at decided
  · rename_i qualified
    exact .of_recheck (.grace event) qualified latched decided
  · rename_i unqualified
    split at decided
    · cases decided
    · rename_i soakEnds soaks
      refine .sensor ?_
      simp only [soakFault, event, if_neg unqualified, soaks, Option.map_some]
      split at decided
      · rename_i invalid
        obtain rfl := Except.ok.inj decided
        rw [if_pos invalid]
        exact latched
      · rename_i valid
        rw [if_neg valid]
        split at decided
        · rename_i lost
          obtain rfl := Except.ok.inj decided
          rw [if_pos lost]
          exact latched
        · rename_i stale
          obtain rfl := Except.ok.inj decided
          rw [if_neg stale]
          exact latched

theorem startupPersistedSoakingRow_faults {trusted : Bool} {runId : Option String}
    {unsafeFault : Option FaultCode}
    (event : inp.event = .startupPersistedSoaking trusted runId unsafeFault)
    (latched : decision.fault = some fault)
    (decided : startupPersistedSoakingRow inp session trusted runId unsafeFault = .ok decision) :
    SoakFaults inp session fault := by
  unfold startupPersistedSoakingRow at decided
  split at decided
  · split at decided
    · cases decided
    · cases decided
    · cases decided
    · obtain rfl := Except.ok.inj decided
      cases latched
  · rename_i untrusted
    obtain rfl := Except.ok.inj decided
    have untrusted : trusted = false := by simpa using untrusted
    subst untrusted
    simp only at latched
    subst latched
    exact .restored event

/-- A soak that ends in a fault ends in one that its event shows. -/
theorem decide_soakFaults (soaking : inp.state = .soaking) (held : inp.session = some session)
    (uncommitted : session.pendingTerminationReason = none)
    (latched : decision.fault = some fault) (decided : decide inp = .ok decision) :
    SoakFaults inp session fault := by
  cases event : inp.event with
  | moistureReport observation =>
    simp only [decide, event, soaking, decideSoaking, held, uncommitted, Option.isSome_none,
      Bool.false_eq_true, if_false] at decided
    exact soakingMoisture_faults event latched decided
  | soakDeadlineReached | autoEvaluate | slotGranted =>
    simp only [decide, event, soaking, decideSoaking, held, uncommitted, Option.isSome_none,
      Bool.false_eq_true, if_false] at decided
    exact soakingDeadlineOrEvaluate_faults (by simp [event]) latched decided
  | graceDeadlineReached =>
    simp only [decide, event, soaking, decideSoaking, held, uncommitted, Option.isSome_none,
      Bool.false_eq_true, if_false] at decided
    exact soakingGrace_faults event latched decided
  | startupPersistedSoaking trusted runId unsafeFault =>
    simp only [decide, event, soaking, decideSoaking, held, uncommitted, Option.isSome_none,
      Bool.false_eq_true, if_false] at decided
    exact startupPersistedSoakingRow_faults event latched decided
  | configurationInvalid atSetup =>
    cases atSetup with
    | true =>
      simp only [decide, event, Except.ok.injEq] at decided
      subst decided
      obtain rfl := Option.some.inj latched
      exact .configuring event
    | false =>
      simp only [decide, event, soaking, decideSoaking, held, uncommitted, Option.isSome_none,
        Bool.false_eq_true, if_false, Except.ok.injEq] at decided
      subst decided
      cases latched
  | storeIntegrityLost =>
    simp only [decide, event, Except.ok.injEq] at decided
    subst decided
    obtain rfl := Option.some.inj latched
    exact .integrity event
  | actuatorBecameUnavailable =>
    simp only [decide, event, soaking, decideSoaking, held, uncommitted, Option.isSome_none,
      Bool.false_eq_true, if_false, Except.ok.injEq] at decided
    subst decided
    obtain rfl := Option.some.inj latched
    exact .lost event
  | _ =>
    simp only [decide, event, soaking, decideSoaking, held, uncommitted, Option.isSome_none,
      Bool.false_eq_true, if_false, Except.ok.injEq] at decided
    subst decided
    cases latched

theorem latchesFault_of_soaking (soaking : inp.state = .soaking) (held : inp.session = some session)
    (uncommitted : session.pendingTerminationReason = none) (zonal : fault.isZoneFault = true)
    (latched : decision.fault = some fault) (decided : decide inp = .ok decision) :
    LatchesFault inp fault := by
  cases decide_soakFaults soaking held uncommitted latched decided with
  | sensor shown => exact .soaking soaking held uncommitted shown
  | lost | unready | integrity => cases zonal
  | configuring event => exact .configuring event (.inl rfl)
  | restored event => exact .restored soaking held uncommitted event

/-! ## The two slots after a decision -/

/-- Which fault of the zone a decision latches, and which it moves to the second slot. -/
structure PairOutcome (inp : TransitionInput) (decision : Decision) : Prop where
  latches : ∀ fault, fault.isZoneFault = true → decision.fault = some fault →
    inp.activeFault = some fault ∨ LatchesFault inp fault
  retains : ∀ fault, decision.secondaryFault = some fault → fault.isZoneFault = true ∧
    (decision.fault = some .actuatorOffTimeout ∨
      (decision.fault = inp.activeFault ∧ ∃ session, inp.state = .watering ∧
        inp.session = some session ∧ session.retainedSensorFault.map Subtype.val = some fault ∧
        Finalizes inp session .actuatorFault))

theorem PairOutcome.of_unfaulted (fault : decision.fault = none)
    (secondary : decision.secondaryFault = none) : PairOutcome inp decision :=
  ⟨fun _ _ latched => (by rw [fault] at latched; cases latched),
    fun _ retained => (by rw [secondary] at retained; cases retained)⟩

theorem PairOutcome.of_single (secondary : decision.secondaryFault = none)
    (latches : ∀ fault, fault.isZoneFault = true → decision.fault = some fault →
      inp.activeFault = some fault ∨ LatchesFault inp fault) : PairOutcome inp decision :=
  ⟨latches, fun _ retained => (by rw [secondary] at retained; cases retained)⟩

@[simp] theorem retainedSensorFault_closeRuntime (session : SessionContext) (offAt : Instant)
    (reason : CompletionReason) :
    (closeRuntime session offAt reason).retainedSensorFault = session.retainedSensorFault := rfl

theorem finalizeManualComplete_pair {session closed : SessionContext}
    {extraActions : List Action} (watering : inp.state = .watering)
    (held : inp.session = some session)
    (same : closed.retainedSensorFault = session.retainedSensorFault)
    (finalizes : Finalizes inp session .manualComplete) :
    PairOutcome inp (finalizeManualComplete inp closed extraActions) := by
  refine .of_single rfl fun fault zonal latched => .inr ?_
  unfold finalizeManualComplete at latched
  rw [same] at latched
  cases kept : session.retainedSensorFault with
  | none => simp [kept] at latched
  | some retained =>
    cases fresh : freshValid inp with
    | true => simp [kept, fresh] at latched
    | false =>
      simp only [kept, fresh, Bool.false_eq_true, if_false, Option.some.injEq] at latched
      subst latched
      exact .retained watering held kept fresh finalizes (.inl rfl)

/-- `POST(fault)` goes on with the active fault, or latches the retained one again. -/
theorem postDestination_fault {closed : SessionContext} {reason : CompletionReason}
    {fault : FaultCode} (latched : (postDestination inp closed reason).2.1 = some fault) :
    inp.activeFault = some fault ∨
      (closed.retainedSensorFault.map Subtype.val = some fault ∧ freshValid inp = false ∧
        inp.enabled = true ∧ inp.activeFault = none ∧ reason ≠ .zoneDisabled ∧
        reason ≠ .sensorFault ∧ reason ≠ .actuatorFault) := by
  unfold postDestination at latched
  split at latched
  · cases latched
  · rename_i enabled
    split at latched
    · exact .inl latched
    · rename_i other
      obtain ⟨sensor, actuator⟩ := not_or.mp other
      split at latched
      · cases latched
      · rename_i disabled
        have disabled : inp.enabled = true := by simpa using disabled
        cases active : inp.activeFault with
        | none =>
          cases kept : closed.retainedSensorFault with
          | none => simp [active, kept] at latched
          | some retained =>
            cases fresh : freshValid inp with
            | true => simp [active, kept, fresh] at latched
            | false =>
              simp only [active, kept, fresh, Option.map_some, ne_eq, reduceCtorEq,
                not_false_eq_true, if_true, Bool.false_eq_true, if_false] at latched
              exact .inr ⟨latched, rfl, disabled, rfl, enabled, sensor, actuator⟩
        | some current =>
          left
          by_cases same : closed.retainedSensorFault.map Subtype.val = some current
          · cases fresh : freshValid inp <;> simp [active, same, fresh] at latched
            exact congrArg some latched
          · have differs : ¬ some current = closed.retainedSensorFault.map Subtype.val :=
              fun equal => same equal.symm
            simp only [active, ne_eq, differs, not_false_eq_true, if_true] at latched
            exact latched

theorem finalizeWatering_pair {session finalized : SessionContext} {reason : CompletionReason}
    {offAt : Instant} {extraActions : List Action} (watering : inp.state = .watering)
    (held : inp.session = some session)
    (same : finalized.retainedSensorFault = session.retainedSensorFault)
    (finalizes : Finalizes inp session reason)
    (decided : finalizeWatering inp finalized reason offAt extraActions = .ok decision) :
    PairOutcome inp decision := by
  simp only [finalizeWatering] at decided
  split at decided
  · rename_i manual
    obtain rfl := Except.ok.inj decided
    subst manual
    exact finalizeManualComplete_pair watering held same finalizes
  · split at decided
    · cases decided
    · obtain rfl := Except.ok.inj decided
      constructor
      · intro fault zonal latched
        obtain active | ⟨kept, fresh, enabled, active, reasons⟩ := postDestination_fault latched
        · exact .inl active
        · obtain ⟨retained, held', rfl⟩ := Option.map_eq_some_iff.mp kept
          have kept' : session.retainedSensorFault = some retained := same.symm.trans held'
          exact .inr (.retained watering held kept' fresh finalizes
            (.inr ⟨enabled, active, reasons⟩))
      · intro fault retained
        simp only at retained
        split at retained
        · rename_i actuator
          subst actuator
          refine ⟨zoneFault_of_retained retained, .inr ⟨by simp [postDestination], session,
            watering, held, ?_, finalizes⟩⟩
          rw [← same]
          exact retained
        · cases retained

/-- Every decision keeps the two slots apart, as far as its input does. -/
theorem decide_pair (decided : decide inp = .ok decision) : PairOutcome inp decision := by
  cases decide_row decided with
  -- The fault of the store is none of the zone.
  | integrityLost =>
    refine .of_single rfl fun fault zonal latched => ?_
    obtain rfl := Option.some.inj latched
    cases zonal
  | configurationInvalid row atSetup event =>
    refine .of_single rfl fun fault zonal latched => .inr ?_
    obtain rfl := Option.some.inj latched
    refine .configuring event ?_
    cases atSetup with
    | true => exact .inl rfl
    -- Outside setup the row belongs to IDLE and FAULT.
    | false =>
      right
      cases state : inp.state with
      | idle => exact .inl rfl
      | fault => exact .inr rfl
      | disabled =>
        simp [decide, event, state, decideDisabled, noOp, configurationInvalidRow] at decided
      | watering =>
        cases held : inp.session <;>
          simp [decide, event, state, decideWatering, held, noOp, configurationInvalidRow] at decided
      | soaking =>
        cases held : inp.session with
        | none => simp [decide, event, state, decideSoaking, held] at decided
        | some session =>
          cases pending : session.pendingTerminationReason <;>
            simp [decide, event, state, decideSoaking, held, pending, noOp,
              configurationInvalidRow] at decided
  | passive _ _ fault secondary => exact .of_unfaulted fault secondary
  | slotWait | declined | disable | externalOn | externalOff | enableIdle | pulseEnd | refresh
  | recoveryCommit | pulseOff | soakExternal | soakCompletion | soakSlotWait | soakInterference
  | soakCancel | soakPreserved | faultCleared => exact .of_unfaulted rfl rfl
  | autoStart _ _ _ _ _ _ started | nextPulse _ _ _ _ _ _ _ _ started =>
    obtain ⟨fault, secondary⟩ := startAutoPulse_faults started
    exact .of_unfaulted fault secondary
  | manualStart _ _ _ _ started =>
    obtain ⟨fault, secondary⟩ := manualStart_faults started
    exact .of_unfaulted fault secondary
  -- T46 shows the fault that is active already.
  | enableFault _ _ latched =>
    refine .of_single rfl fun fault zonal same => .inl ?_
    rw [latched]
    exact same
  | closeAccounting _ _ closed =>
    unfold closeOpenAccounting at closed
    split at closed
    · cases closed
    · split at closed
      · cases closed
      · obtain rfl := Except.ok.inj closed
        exact .of_unfaulted rfl rfl
  | onConfirmed _ _ _ confirmed =>
    unfold onConfirmedRow at confirmed
    split at confirmed
    · cases confirmed
    · obtain rfl := Except.ok.inj confirmed
      exact .of_unfaulted rfl rfl
  | commit watering held uncommitted trigger =>
    refine .of_single rfl fun fault zonal latched => .inr ?_
    simp only [commitTermination] at latched
    subst latched
    exact .watering watering held uncommitted trigger
  | finalize watering held evidence finalized =>
    exact finalizeWatering_pair watering held rfl (.inl ⟨_, _, evidence⟩) finalized
  | recoveredOff watering held event finalized =>
    refine finalizeWatering_pair watering held ?_ (.inr ⟨event, rfl⟩) finalized
    rfl
  -- The actuator fault takes the first slot, the retained one the second.
  | offNotConfirmed | soakOffNotConfirmed =>
    refine ⟨fun fault zonal latched => ?_, fun fault retained =>
      ⟨zoneFault_of_retained retained, .inl rfl⟩⟩
    obtain rfl := Option.some.inj latched
    cases zonal
  | soakFault recheck soaking held uncommitted =>
    exact .of_single rfl fun fault zonal latched =>
      .inr (latchesFault_of_soaking soaking held uncommitted zonal latched decided)
  | soakAdopted _ _ _ _ adopted =>
    simp only [startupPersistedSoakingRow, if_true] at adopted
    split at adopted
    · cases adopted
    · cases adopted
    · cases adopted
    · obtain rfl := Except.ok.inj adopted
      exact .of_unfaulted rfl rfl
  | soakTerminated soaking held uncommitted event terminated =>
    refine .of_single ?_ fun fault zonal latched =>
      .inr (latchesFault_of_soaking soaking held uncommitted zonal latched decided)
    simp only [startupPersistedSoakingRow, Bool.false_eq_true, if_false, Except.ok.injEq] at terminated
    rw [← terminated]

end StateMachine

/-! ## Runs of a zone -/

namespace Zone

variable {zone next start finish : Zone} {input : TransitionInput} {decision : Decision}
  {label : ZoneLabel}

/-- The second slot holds a fault of the zone, and not the one of the first slot. -/
structure PairSound (zone : Zone) : Prop where
  zonal : ∀ fault, zone.secondaryFault = some fault → fault.isZoneFault = true
  distinct : ∀ fault, zone.activeFault = some fault → zone.secondaryFault ≠ some fault

/-- The decision of the step repeats no fault. -/
def KeepsPair (_ : Zone) (label : ZoneLabel) (_ : Zone) : Prop :=
  match label with
  | .decide input | .setEnabled _ input | .compensate input => StateMachine.KeepsPair input
  | .commanded .. | .writeFailed => True

/-- The two slots after a decision, the first one cleared or not. -/
theorem PairSound.of_outcome (sound : zone.PairSound) (feeds : zone.Feeds input)
    (keeps : StateMachine.KeepsPair input) (outcome : StateMachine.PairOutcome input decision)
    {after : Zone} (active : after.activeFault = none ∨
      after.activeFault = decision.fault.or zone.activeFault)
    (secondary : after.secondaryFault = decision.secondaryFault.or zone.secondaryFault) :
    after.PairSound := by
  obtain ⟨-, -, -, shownActive, shownSecondary⟩ := feeds
  have zonal : ∀ fault, after.secondaryFault = some fault → fault.isZoneFault = true := by
    intro fault held
    rw [secondary] at held
    rcases Option.or_eq_some_iff.mp held with new | ⟨-, old⟩
    · exact (outcome.retains fault new).1
    · exact sound.zonal fault old
  refine ⟨zonal, fun fault latched held => ?_⟩
  have ofZone := zonal fault held
  have latched : decision.fault.or zone.activeFault = some fault := by
    rcases active with cleared | same
    · rw [cleared] at latched
      cases latched
    · exact same ▸ latched
  rw [secondary] at held
  rcases Option.or_eq_some_iff.mp held with new | ⟨-, old⟩
  · -- A fault that moves to the second slot has an actuator fault over it.
    rcases (outcome.retains fault new).2 with timeout | ⟨same, session, watering, open', kept,
      finalizes⟩
    · rw [timeout] at latched
      obtain rfl := Option.some.inj latched
      cases ofZone
    · obtain ⟨retained, sensor, rfl⟩ := Option.map_eq_some_iff.mp kept
      rw [same, shownActive, Option.or_self] at latched
      exact keeps.superseding session retained watering open' sensor
        (shownActive.trans latched) finalizes
  · rcases Option.or_eq_some_iff.mp latched with new | ⟨-, current⟩
    · rcases outcome.latches fault ofZone new with current | anew
      · exact sound.distinct fault (shownActive.symm.trans current) old
      · exact keeps.latching fault (shownSecondary.trans old) anew
    · exact sound.distinct fault current old

theorem PairSound.decideWith (sound : zone.PairSound) (feeds : zone.Feeds input)
    (keeps : StateMachine.KeepsPair input) {goOn : Zone → Decision → Zone}
    (active : ∀ decision, (goOn zone decision).activeFault = none ∨
      (goOn zone decision).activeFault = decision.fault.or zone.activeFault)
    (secondary : ∀ decision,
      (goOn zone decision).secondaryFault = decision.secondaryFault.or zone.secondaryFault) :
    (zone.decideWith input goOn).PairSound := by
  rcases zone.decideWith_cases input goOn with same | ⟨decision, decided, same⟩
  · rw [same]
    exact sound
  · rw [same]
    exact sound.of_outcome feeds keeps (StateMachine.decide_pair decided) (active decision)
      (secondary decision)

theorem adopt_activeFault (zone : Zone) (decision : Decision) :
    (zone.adopt decision).activeFault = none ∨
      (zone.adopt decision).activeFault = decision.fault.or zone.activeFault := by
  cases cleared : decision.clearFault <;> simp [adopt, cleared]

theorem PairSound.step (sound : zone.PairSound) (stepped : zone.step label = some next)
    (keeps : KeepsPair zone label next) : next.PairSound := by
  cases label with
  | decide input =>
    obtain ⟨⟨feeds, -⟩, same⟩ := Option.ite_none_right_eq_some.mp stepped
    obtain rfl := Option.some.inj same
    exact sound.decideWith feeds keeps zone.adopt_activeFault fun _ => rfl
  | setEnabled enabled input =>
    obtain ⟨⟨feeds, -⟩, same⟩ := Option.ite_none_right_eq_some.mp stepped
    obtain rfl := Option.some.inj same
    have toggled : { zone with enabled := enabled }.PairSound := ⟨sound.zonal, sound.distinct⟩
    exact toggled.decideWith feeds keeps (adopt_activeFault _) fun _ => rfl
  | compensate input =>
    cases held : zone.session with
    | none => simp [Zone.step, held] at stepped
    | some session =>
      simp only [Zone.step, held, Option.ite_none_right_eq_some, Option.some.injEq] at stepped
      obtain ⟨⟨feeds, -⟩, rfl⟩ := stepped
      have marked : zone.markEstimated.PairSound := ⟨sound.zonal, sound.distinct⟩
      exact marked.decideWith feeds keeps (fun _ => .inr rfl) fun _ => rfl
  | commanded sessionId atUtc =>
    obtain rfl := Option.some.inj stepped
    exact ⟨sound.zonal, sound.distinct⟩
  | writeFailed =>
    obtain rfl := Option.some.inj stepped
    refine ⟨sound.zonal, fun fault latched held => ?_⟩
    obtain rfl := Option.some.inj latched
    cases sound.zonal _ held

/-! ## Writing the pair and restoring it -/

/-- The zone has the fault pair that a controller of the record restores from the store. -/
def RestoredFrom (zone : Zone) (data : StoreData) (safetyRecordId : String) : Prop :=
  ∃ record history, data.safetyRecords.get? safetyRecordId = some record ∧
    data.zoneHistories.get? record.zoneHistoryId = some history ∧
    attachedFaults record.actuatorFault history.zoneRuntime.zoneFault
      history.zoneRuntime.secondaryFault = (zone.activeFault, zone.secondaryFault)

/-- Every controller write of the pair whose counter is storable is accepted, and a new
controller restores the pair from it. -/
def PairStored (zone : Zone) : Prop :=
  ∀ (data : StoreData) (safetyRecordId : String) (record : SafetyRecord) (history : ZoneHistory)
    (update : ControllerUpdate), data.safetyRecords.get? safetyRecordId = some record →
    data.zoneHistories.get? record.zoneHistoryId = some history →
    update.activeFault = zone.activeFault → update.secondaryFault = zone.secondaryFault →
    DailyStorable history.daily update.daily →
    ∃ data', updateControllerRuntime data safetyRecordId record.zoneHistoryId update = .ok data' ∧
      zone.RestoredFrom data' safetyRecordId

/-- With a fault of the zone in the second slot the partition finds one actuator fault. -/
theorem partition_of_zonal {primary secondary : Option FaultCode}
    (zonal : ∀ fault, secondary = some fault → fault.isZoneFault = true) :
    partitionControllerFaults primary secondary = .ok
      { actuatorFault := primary.filter FaultCode.isActuatorFault
        zoneFault := primary.filter FaultCode.isZoneFault
        secondaryZoneFault := secondary } := by
  cases secondary with
  | none => cases primary with
    | none => rfl
    | some fault => cases fault <;> rfl
  | some second =>
    have ofZone := zonal second rfl
    cases primary with
    | none => cases second <;> first | rfl | cases ofZone
    | some fault => cases fault <;> cases second <;> first | rfl | cases ofZone

/-- The partition of such a pair is restored as the pair. -/
theorem attachedFaults_of_partition (primary secondary : Option FaultCode) :
    attachedFaults (primary.filter FaultCode.isActuatorFault)
      (primary.filter FaultCode.isZoneFault) secondary = (primary, secondary) := by
  cases primary with
  | none => rfl
  | some fault => cases fault <;> simp [attachedFaults, FaultCode.isActuatorFault,
      FaultCode.isZoneFault, Option.filter]

theorem PairSound.stored (sound : zone.PairSound) : zone.PairStored := by
  intro data safetyRecordId record history update foundRecord foundHistory active secondary daily
  have parted := @partition_of_zonal update.activeFault update.secondaryFault
    (secondary ▸ sound.zonal)
  have storable : update.FaultsStorable := by
    intro fault _ latched
    rw [secondary]
    exact sound.distinct fault (active ▸ latched)
  have consistent := (update.fields_consistent_iff data.consistent foundRecord foundHistory rfl
    parted).mpr ⟨storable, daily⟩
  refine ⟨⟨_, StoreFields.holds_guards_iff.mpr consistent⟩, ?_, _, _,
    Dict.get?_set_self _ _ _, Dict.get?_set_self _ _ _, ?_⟩
  · rw [updateControllerRuntime_eq_ok_iff]
    exact ⟨record, history, _, foundRecord, foundHistory, rfl, parted, rfl⟩
  · rw [← active, ← secondary]
    exact attachedFaults_of_partition update.activeFault update.secondaryFault

/-- What a valid store holds of a zone is restored as a pair that repeats no fault. -/
theorem RestoredFrom.sound {data : StoreData} {safetyRecordId : String}
    (restored : zone.RestoredFrom data safetyRecordId) : zone.PairSound := by
  obtain ⟨record, history, foundRecord, foundHistory, pair⟩ := restored
  have recordValid := data.consistent.records _ _ foundRecord
  have historyValid := data.consistent.histories _ _ foundHistory
  simp only [SafetyRecord.guards, Checked.holds_append, Checked.holds_cons] at recordValid
  obtain ⟨-, -, -, -, -, actuatorScoped, -⟩ := recordValid
  simp only [ZoneHistory.guards, ZoneRuntime.guards, Checked.holds_append,
    Checked.holds_cons] at historyValid
  obtain ⟨⟨⟨⟨⟨zoneScoped, secondaryScoped, distinct, -⟩, -⟩, -⟩, -⟩, -⟩ := historyValid
  have ofZone : ∀ fault, (history.zoneRuntime.secondaryFault = some fault ∨
      history.zoneRuntime.zoneFault = some fault) → fault.isZoneFault = true := by
    rintro fault (held | held)
    · simpa [held] using secondaryScoped
    · simpa [held] using zoneScoped
  cases latched : record.actuatorFault with
  | none =>
    simp only [attachedFaults, latched, Option.none_or, Option.isSome_none, Bool.false_eq_true,
      if_false, Prod.mk.injEq] at pair
    obtain ⟨active, secondary⟩ := pair
    refine ⟨fun fault held => ofZone fault (.inl (secondary.trans held)),
      fun fault held repeated => ?_⟩
    simp [active.trans held, secondary.trans repeated] at distinct
  | some actuatorFault =>
    simp only [attachedFaults, latched, Option.some_or, Option.isSome_some, if_true,
      Prod.mk.injEq] at pair
    obtain ⟨active, secondary⟩ := pair
    have zonal : ∀ fault, zone.secondaryFault = some fault → fault.isZoneFault = true := by
      intro fault held
      rw [← secondary] at held
      rcases Option.or_eq_some_iff.mp held with held | ⟨-, held⟩
      · exact ofZone fault (.inl held)
      · exact ofZone fault (.inr held)
    refine ⟨zonal, fun fault held repeated => ?_⟩
    obtain rfl := Option.some.inj (active.trans held)
    have repeatedZonal := zonal _ repeated
    simp only [latched, Option.any_some, Bool.not_eq_false'] at actuatorScoped
    simp [FaultCode.isZoneFault_eq_not_isActuatorFault, actuatorScoped] at repeatedZonal

/-- In a run that latches no fault which the second slot still holds, from a pair restored
from the store: every pair is stored, and restored as it was. -/
theorem pairStored_of_run {data : StoreData} {safetyRecordId : String}
    (reached : system.Run KeepsPair start finish)
    (restored : start.RestoredFrom data safetyRecordId) : finish.PairStored := by
  have sound : finish.PairSound := reached.preserves restored.sound
    fun _ _ _ sound stepped keeps => sound.step stepped keeps
  exact sound.stored

/-! ## A sensor fault that is latched again -/

theorem atRest_restored : atRest.RestoredFrom sampleStore "record-a" :=
  ⟨sampleRecord "record-a" "bed" "history-a" "uuid-a" "switch.a",
    sampleHistory "history-a" "bed", by decide +kernel, by decide +kernel, by decide +kernel⟩

def pairCheck : ZoneLabel → Bool
  | .decide input | .setEnabled _ input | .compensate input =>
    input.secondaryFault.isNone &&
      (input.session.all (fun session => session.retainedSensorFault.isNone) ||
        decide (input.event = .offNotConfirmed))
  | _ => true

theorem keepsPair_of_check {label : ZoneLabel} (permitted : pairCheck label = true) :
    KeepsPair zone label next := by
  cases label with
  | decide input | setEnabled _ input | compensate input =>
    simp only [pairCheck, Bool.and_eq_true, Bool.or_eq_true, decide_eq_true_eq,
      Option.isNone_iff_eq_none, Option.all_eq_true] at permitted
    obtain ⟨single, free⟩ := permitted
    refine ⟨fun fault second => by simp [single] at second, ?_⟩
    rintro session fault - held retained - finalizes
    obtain unretained | unproven := free
    · simp [unretained session held] at retained
    · obtain ⟨offAt, actions, evidence⟩ | ⟨recovered, -⟩ := finalizes
      · cases evidence with
        | committed proven _ => simp [unproven] at proven
      · simp [unproven] at recovered
  | _ => trivial

/-- A session ends in SENSOR_INVALID, a manual one over it cannot prove OFF, and the two faults
are stored beside each other. -/
theorem pairStored_of_run_superseded :
    ∃ finish,
      atRest.sampleRunWhile pairCheck [.inr .autoEvaluate,
        .inr (.moistureReport ⟨none, .invalid, some 100⟩), .inr (.offConfirmed 100),
        .inr (.manualStartRequested (some 60)), .inr .offNotConfirmed] = some finish ∧
      finish.activeFault = some .actuatorOffTimeout ∧
      finish.secondaryFault = some .sensorInvalid ∧ finish.PairStored := by
  obtain ⟨finish, executed, faults⟩ := (Option.any_eq_true _ _).mp
    (show (atRest.sampleRunWhile pairCheck [.inr .autoEvaluate,
      .inr (.moistureReport ⟨none, .invalid, some 100⟩), .inr (.offConfirmed 100),
      .inr (.manualStartRequested (some 60)), .inr .offNotConfirmed]).any (fun finish =>
        decide (finish.activeFault = some .actuatorOffTimeout) &&
          decide (finish.secondaryFault = some .sensorInvalid)) = true by decide +kernel)
  simp only [Bool.and_eq_true, decide_eq_true_eq] at faults
  exact ⟨finish, executed, faults.1, faults.2,
    pairStored_of_run (run_of_sampleRunWhile (fun _ _ _ => keepsPair_of_check) executed)
      atRest_restored⟩

/-- A write of a zone in which SENSOR_INVALID has both slots. -/
def repeatedUpdate : ControllerUpdate where
  state := .watering
  enabled := true
  activeFault := some .sensorInvalid
  secondaryFault := some .sensorInvalid
  lastSessionEndUtc := none
  lastAutoSessionStartUtc := none
  daily := none
  lastSessionSummary := none
  session := none
  possibleFlowOwner := none

/-- A manual session over SENSOR_INVALID cannot prove OFF; the actuator fault is cleared, and
the next automatic session ends in SENSOR_INVALID again. -/
theorem not_pairStored_latched_again :
    ¬ ∀ (start finish : Zone) (data : StoreData) (safetyRecordId : String),
      system.Run (fun _ _ _ => True) start finish → start.RestoredFrom data safetyRecordId →
      finish.PairStored := by
  intro claimed
  obtain ⟨finish, executed, repeated⟩ := (Option.any_eq_true _ _).mp
    (show ((atRest.sampleRun
      [.inr .autoEvaluate, .inr (.moistureReport ⟨none, .invalid, some 100⟩),
        .inr (.offConfirmed 100), .inr (.manualStartRequested (some 60)), .inr .offNotConfirmed,
        .inr (.offConfirmed 100), .inr .clearFaultRequested, .inr .autoEvaluate,
        .inr (.moistureReport ⟨none, .invalid, some 100⟩)]).any fun finish =>
        decide (finish.activeFault = some .sensorInvalid) &&
          decide (finish.secondaryFault = some .sensorInvalid)) = true by decide +kernel)
  simp only [Bool.and_eq_true, decide_eq_true_eq] at repeated
  obtain ⟨active, secondary⟩ := repeated
  obtain ⟨data', accepted, -⟩ := claimed atRest finish sampleStore "record-a"
    (run_of_sampleRun executed) atRest_restored sampleStore "record-a"
    (sampleRecord "record-a" "bed" "history-a" "uuid-a" "switch.a")
    (sampleHistory "history-a" "bed") repeatedUpdate (by decide +kernel) (by decide +kernel)
    active.symm secondary.symm (by simp [DailyStorable, repeatedUpdate])
  have rejected : (updateControllerRuntime sampleStore "record-a" "history-a"
      repeatedUpdate).toOption.isSome = false := by decide +kernel
  have accepted : updateControllerRuntime sampleStore "record-a" "history-a" repeatedUpdate =
      .ok data' := accepted
  rw [accepted] at rejected
  cases rejected

end Zone

end MoistureLoop
