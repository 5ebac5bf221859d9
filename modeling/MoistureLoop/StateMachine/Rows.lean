import MoistureLoop.StateMachine.Decide

/-! # What one decision can be

`Row inp decision` lists every decision `decide` can return, with the guards that
admit it.  `decide_row` is the only place that unfolds the branches of the state
machine: every invariant of the controller is proved by cases on `Row`. -/

open MoistureLoop.Action

namespace MoistureLoop.StateMachine

/-- The terminal triggers of a flowing session whose reason is still open: the
committed reason, the fault latched with it, and whether OFF is defensive. -/
inductive Trigger (inp : TransitionInput) (session : SessionContext) :
    CompletionReason → Option FaultCode → Bool → Prop where
  | onTimeout : inp.event = .onConfirmTimeout → session.pulseConfirmedAtUtc = none →
      Trigger inp session .actuatorFault (some .actuatorOnTimeout) true
  | unavailable : inp.event = .actuatorBecameUnavailable →
      Trigger inp session .actuatorFault (some .actuatorUnavailable) true
  | sensorInvalid {observation : MoistureObservation} : inp.event = .moistureReport observation →
      session.mode = .auto → observation.classification = .invalid →
      Trigger inp session .sensorFault (some .sensorInvalid) false
  | sensorUnavailable {observation : MoistureObservation} :
      inp.event = .moistureReport observation →
      session.mode = .auto → observation.classification = .unavailable →
      Trigger inp session .sensorFault (some .sensorUnavailable) false
  | sensorStale {token : WatchdogToken} {freshUntil : Instant} :
      inp.event = .watchdogFired token → inp.armedWatchdog = some token → session.mode = .auto →
      session.sensorFreshUntilUtc = some freshUntil → freshUntil ≤ inp.nowUtc →
      Trigger inp session .sensorFault (some .sensorStale) false
  | manualEnd : inp.event = .manualDeadlineReached → session.mode = .manual →
      Trigger inp session .manualComplete none false
  | stop : inp.event = .stopRequested → Trigger inp session .userStop none false
  | disable : inp.event = .disableRequested → Trigger inp session .zoneDisabled none false
  | shutdown : inp.event = .homeAssistantShutdown →
      Trigger inp session .homeAssistantShutdown none false
  | reload : inp.event = .configEntryReload → Trigger inp session .configReload none false
  | changed : inp.event = .configChangedPrepare → Trigger inp session .configChanged none false

/-- The OFF evidence that finalizes a flowing session, the reason it finalizes
with, and the actions issued first. -/
inductive Evidence (inp : TransitionInput) (session : SessionContext) :
    CompletionReason → Instant → List Action → Prop where
  | committed {reason : CompletionReason} {offAt : Instant} :
      inp.event = .externalActuatorOff offAt ∨ inp.event = .offConfirmed offAt →
      session.pendingTerminationReason = some reason → Evidence inp session reason offAt []
  | external {offAt : Instant} : inp.event = .externalActuatorOff offAt →
      session.pendingTerminationReason = none →
      Evidence inp session .externalActuatorStateChange offAt [executeOff true]
  | manualOff {offAt : Instant} : inp.event = .offConfirmed offAt →
      session.pendingTerminationReason = none → session.mode = .manual →
      Evidence inp session .manualComplete offAt []

/-- The conservative view of a persisted pulse after a restart. -/
def recovered (session : SessionContext) (estimation : RuntimeEstimationReason) :
    SessionContext :=
  { session with
    pendingTerminationReason := some .restartRecovery
    runtimeEstimated := true
    runtimeEstimationReason := estimation }

def mayStart : ControllerEvent → Bool
  | .autoEvaluate | .moistureReport _ | .slotGranted | .manualStartRequested _
  | .soakDeadlineReached | .graceDeadlineReached => true
  | _ => false

def isTimerAction : Action → Bool
  | armTimer _ _ | armWatchdog _ => true
  | _ => false

inductive Row (inp : TransitionInput) : Decision → Prop where
  | integrityLost : inp.event = .storeIntegrityLost → Row inp (integrityLost inp)
  | configurationInvalid (row : String) (atSetup : Bool) :
      inp.event = .configurationInvalid atSetup → Row inp (configurationInvalidRow inp row)
  /-- No-ops, refusals, bookkeeping rows and timer rows: nothing but timers moves. -/
  | passive {decision : Decision} :
      decision.newState = none ∨ decision.newState = some inp.state →
      (∀ action ∈ decision.actions, isTimerAction action = true) →
      decision.fault = none → decision.secondaryFault = none → decision.clearFault = false →
      decision.session = none → decision.clearSession = false → decision.finalSession = none →
      decision.reason = none → decision.WellFormed → Row inp decision
  | slotWait {guard : GuardResult} : inp.state = .idle ∨ inp.state = .fault →
      guard.passed = false → guard.failedGuards ≠ [] →
      Row inp { actions := [requestSlot], guardResult := some guard }
  | declined {transitionId : Option String} {newState : Option ControllerState}
      {guard : GuardResult} : inp.event = .slotGranted →
      (inp.state = .idle ∧ newState = some .idle) ∨ (inp.state = .soaking ∧ newState = none) →
      guard.passed = false → guard.failedGuards ≠ [] →
      Row inp
        { transitionId := transitionId
          newState := newState
          actions := [releaseSlot]
          guardResult := some guard }
  | autoStart {decision : Decision} : inp.state = .idle → mayStart inp.event = true →
      freshValid inp = true → inp.resource.slotGranted = true →
      inp.resource.blockersEmpty = true → actuatorReady inp = true →
      startAutoPulse inp none = .ok decision → Row inp decision
  | nextPulse {decision : Decision} {session : SessionContext} {value : Moisture} :
      inp.state = .soaking → inp.session = some session →
      session.pendingTerminationReason = none → mayStart inp.event = true →
      postQualifies inp = true → inp.resource.slotGranted = true →
      inp.resource.blockersEmpty = true → inp.actuator.provenOff = true →
      startAutoPulse inp (some { session with lastRecheckValue := some value }) = .ok decision →
      Row inp decision
  | manualStart {decision : Decision} {requested : Seconds} {row : String} :
      inp.event = .manualStartRequested (some requested) →
      (inp.state = .idle ∧ row = "T3") ∨ (inp.state = .fault ∧ row = "T40") →
      manualGuardFailures inp (some requested) = [] → inp.resource.slotGranted = true →
      StateMachine.manualStart inp (some requested) row = .ok decision →
      decision.session.isSome → Row inp decision
  | disable {row : String} : inp.event = .disableRequested →
      inp.state = .idle ∨ inp.state = .fault →
      Row inp
        { transitionId := some row
          newState := some .disabled
          actions := [persistState "disabled", releaseSlot] }
  | externalOn {transitionId : Option String} {newState : Option ControllerState} :
      inp.event = .externalActuatorOn → inp.externalOn = false →
      inp.state = .idle ∨ inp.state = .disabled ∨ inp.state = .fault →
      newState = none ∨ newState = some inp.state →
      Row inp
        { transitionId := transitionId
          newState := newState
          actions := [setExternalOn true, addBlocker .externalFlow] }
  | externalOff {transitionId : Option String} {newState : Option ControllerState}
      {offAt : Instant} :
      inp.event = .externalActuatorOff offAt → inp.externalOn = true →
      inp.state = .idle ∨ inp.state = .disabled ∨ inp.state = .fault →
      newState = none ∨ newState = some inp.state →
      Row inp
        { transitionId := transitionId
          newState := newState
          actions := [setExternalOn false, removeBlocker .externalFlow] }
  | enableFault {fault : FaultCode} : inp.event = .enableRequested → inp.state = .disabled →
      inp.activeFault = some fault →
      Row inp
        { transitionId := some "T46"
          newState := some .fault
          actions := [persistState "enabled"]
          fault := some fault }
  | enableIdle : inp.event = .enableRequested → inp.state = .disabled → inp.activeFault = none →
      Row inp
        { transitionId := some "T47"
          newState := some .idle
          actions := [persistState "enabled", scheduleEvaluation] }
  | closeAccounting {decision : Decision} {offAt : Instant} :
      inp.event = .externalActuatorOff offAt ∨ inp.event = .offConfirmed offAt →
      inp.state = .disabled ∨ inp.state = .fault →
      closeOpenAccounting inp offAt = .ok decision → Row inp decision
  | onConfirmed {decision : Decision} {session : SessionContext} {atUtc : Instant} :
      inp.state = .watering → inp.session = some session → inp.event = .onConfirmed atUtc →
      onConfirmedRow inp session atUtc = .ok decision → Row inp decision
  | commit {session : SessionContext} {reason : CompletionReason} {fault : Option FaultCode}
      {defensive : Bool} :
      inp.state = .watering → inp.session = some session →
      session.pendingTerminationReason = none → Trigger inp session reason fault defensive →
      Row inp (commitTermination session reason fault defensive)
  | pulseEnd {session : SessionContext} : inp.state = .watering → inp.session = some session →
      session.mode = .auto → session.pendingTerminationReason = none →
      inp.event = .pulseDeadlineReached → Row inp { actions := [executeOff false] }
  | refresh {session : SessionContext} {freshUntil : Instant} : inp.state = .watering →
      inp.session = some session → session.mode = .auto →
      session.pendingTerminationReason = none →
      Row inp
        { transitionId := some "T56"
          newState := some .watering
          actions := [armWatchdog ⟨session.sensorFreshnessWatchdogGeneration + 1, freshUntil⟩]
          session := some { session with
            sensorFreshUntilUtc := some freshUntil
            sensorFreshnessWatchdogGeneration :=
              session.sensorFreshnessWatchdogGeneration + 1 } }
  | finalize {decision : Decision} {session : SessionContext} {reason : CompletionReason}
      {offAt : Instant} {extraActions : List Action} :
      inp.state = .watering → inp.session = some session →
      Evidence inp session reason offAt extraActions →
      finalizeWatering inp session reason offAt extraActions = .ok decision → Row inp decision
  | recoveredOff {decision : Decision} {session : SessionContext} : inp.state = .watering →
      inp.session = some session → inp.event = .startupPersistedWatering .off →
      finalizeWatering inp (recovered session .restartFoundOffUnknownStop) .restartRecovery
        inp.nowUtc = .ok decision → Row inp decision
  | recoveryCommit {session : SessionContext} {finding : ActuatorFinding} :
      inp.state = .watering → inp.session = some session →
      inp.event = .startupPersistedWatering finding → finding ≠ .off →
      Row inp
        { actions := [persistState "restart_recovery", addBlocker .integrationOffUnconfirmed,
            executeOff true]
          session := some
            (recovered session (if finding = .on then .restartFoundOn else .offUnconfirmed)) }
  | pulseOff {session : SessionContext} {offAt : Instant} : inp.state = .watering →
      inp.session = some session → session.pendingTerminationReason = none →
      session.mode = .auto → inp.event = .offConfirmed offAt →
      Row inp (pulseOffToSoaking inp session offAt)
  | offNotConfirmed {session : SessionContext} : inp.state = .watering →
      inp.session = some session → inp.event = .offNotConfirmed →
      Row inp (offNotConfirmedRow inp session)
  | soakExternal {session : SessionContext} {offAt : Instant} : inp.state = .soaking →
      inp.session = some session → session.pendingTerminationReason.isSome →
      inp.event = .externalActuatorOff offAt ∨ inp.event = .offConfirmed offAt →
      Row inp (finalizeSoakingExternal inp session offAt)
  | soakOffNotConfirmed {session : SessionContext} : inp.state = .soaking →
      inp.session = some session → session.pendingTerminationReason.isSome →
      inp.event = .offNotConfirmed → Row inp (soakingOffNotConfirmed inp session)
  | soakCompletion {session : SessionContext} {value : Moisture} {row : String}
      {reason : CompletionReason} : inp.state = .soaking → inp.session = some session →
      session.pendingTerminationReason = none → postQualifies inp = true →
      Row inp (finalizeSoakingCompletion inp { session with lastRecheckValue := some value } row
        reason)
  | soakFault {session : SessionContext} (recheck : Option Moisture) {row : String}
      {reason : CompletionReason} {fault : FaultCode} : inp.state = .soaking →
      inp.session = some session → session.pendingTerminationReason = none →
      (reason = .sensorFault ∧ fault.isSensorOnly = true) ∨
        (reason = .actuatorFault ∧ fault = .actuatorUnavailable) →
      Row inp (finalizeSoakingFault { session with lastRecheckValue := recheck } row reason fault)
  | soakSlotWait {session : SessionContext} {value : Moisture} {guard : GuardResult} :
      inp.state = .soaking → inp.session = some session →
      session.pendingTerminationReason = none → postQualifies inp = true →
      guard.passed = false → guard.failedGuards ≠ [] →
      Row inp
        { actions := [requestSlot]
          guardResult := some guard
          session := some { session with lastRecheckValue := some value } }
  | soakInterference {session : SessionContext} : inp.state = .soaking →
      inp.session = some session → session.pendingTerminationReason = none →
      inp.event = .externalActuatorOn →
      Row inp
        { actions := [persistState "external_interference",
            addBlocker .integrationOffUnconfirmed, executeOff true]
          session := some { session with
            pendingTerminationReason := some .externalActuatorStateChange
            lastRecheckValue := none } }
  | soakCancel {session : SessionContext} {row : String} {reason : CompletionReason}
      {destination : ControllerState} : inp.state = .soaking → inp.session = some session →
      session.pendingTerminationReason = none →
      (inp.event = .disableRequested ∧ destination = .disabled ∧ reason = .zoneDisabled) ∨
        (destination = .idle ∧
          ((inp.event = .stopRequested ∧ reason = .userStop) ∨
           (inp.event = .configEntryReload ∧ reason = .configReload) ∨
           (inp.event = .configChangedPrepare ∧ reason = .configChanged))) →
      Row inp (finalizeSoakingCancel session row reason destination)
  | soakPreserved : inp.state = .soaking → inp.session.isSome →
      inp.event = .homeAssistantShutdown →
      Row inp
        { transitionId := some "T37"
          newState := some .soaking
          actions := [persistState "soaking_preserved"] }
  | soakAdopted {decision : Decision} {session : SessionContext} {runId : Option String}
      {unsafeFault : Option FaultCode} : inp.state = .soaking →
      inp.session = some session → session.pendingTerminationReason = none →
      inp.event = .startupPersistedSoaking true runId unsafeFault →
      startupPersistedSoakingRow inp session true runId unsafeFault = .ok decision →
      Row inp decision
  | soakTerminated {decision : Decision} {session : SessionContext} {runId : Option String}
      {unsafeFault : Option FaultCode} : inp.state = .soaking → inp.session = some session →
      session.pendingTerminationReason = none →
      inp.event = .startupPersistedSoaking false runId unsafeFault →
      startupPersistedSoakingRow inp session false runId unsafeFault = .ok decision →
      Row inp decision
  | faultCleared {row : String} {fault : FaultCode} : inp.state = .fault →
      inp.activeFault = some fault →
      (row = "T42" ∧ fault.autoClears = true ∧ inp.session = none) ∨
        (row = "T43" ∧ inp.event = .clearFaultRequested ∧ fault.requiresReconfigure = false) →
      faultResolved inp fault = true →
      Row inp
        { transitionId := some row
          newState := some .idle
          actions := [persistState "fault_cleared", emitFaultCleared fault]
          clearFault := true }

/-! ## `decide` returns only rows -/

private theorem noOp_row (inp : TransitionInput) : Row inp noOp :=
  .passive (.inl rfl) (by simp [noOp]) rfl rfl rfl rfl rfl rfl rfl
    ⟨fun _ => ⟨rfl, rfl⟩, by simp [noOp], by simp [noOp], by simp [noOp]⟩

/-- A refusal or a row that only records an observation. -/
private theorem record_row (inp : TransitionInput) {transitionId : Option String}
    {newState : Option ControllerState} {guard : Option GuardResult}
    (stays : newState = none ∨ newState = some inp.state)
    (named : ∀ result, guard = some result → result.passed = false ∧ result.failedGuards ≠ []) :
    Row inp { transitionId := transitionId, newState := newState, guardResult := guard } := by
  refine .passive stays (by simp) rfl rfl rfl rfl rfl rfl rfl ⟨by simp, by simp, by simp, ?_⟩
  intro result equal
  obtain ⟨passed, failed⟩ := named result equal
  simp [passed, failed]

private theorem timer_row (inp : TransitionInput) {transitionId : Option String}
    {newState : Option ControllerState} {action : Action}
    (stays : newState = none ∨ newState = some inp.state) (timer : isTimerAction action = true) :
    Row inp { transitionId := transitionId, newState := newState, actions := [action] } := by
  refine .passive stays ?_ rfl rfl rfl rfl rfl rfl rfl ⟨by simp, by simp, by simp, by simp⟩
  simpa using timer

/-- An automatic start with no failed guard has passed G-ACT and G-FRESH. -/
theorem ready_of_autoStartFailures {inp : TransitionInput} {freshness : List String}
    (fresh : freshnessFailures inp = .ok freshness)
    (passed : autoStartFailures inp freshness = []) :
    actuatorReady inp = true ∧ freshValid inp = true := by
  constructor
  · by_contra notReady
    simp [autoStartFailures, notReady] at passed
  · by_contra notFresh
    simp only [freshnessFailures, if_neg notFresh, Except.ok.injEq] at fresh
    subst fresh
    simp [autoStartFailures] at passed

theorem evaluateAutoStart_row {inp : TransitionInput} {decision : Decision}
    (state : inp.state = .idle) (event : mayStart inp.event = true)
    (decided : evaluateAutoStart inp = .ok decision) : Row inp decision := by
  unfold evaluateAutoStart at decided
  cases fresh : freshnessFailures inp with
  | error err => simp [fresh] at decided
  | ok freshness =>
    simp only [fresh] at decided
    by_cases refused : autoStartFailures inp freshness ≠ []
    · rw [if_pos refused] at decided
      obtain rfl := Except.ok.inj decided
      by_cases granted : inp.event = .slotGranted
      · rw [if_pos granted]
        exact .declined granted (.inl ⟨state, rfl⟩) rfl refused
      · rw [if_neg granted]
        exact record_row inp (.inr (by rw [state])) (by rintro _ ⟨rfl⟩; exact ⟨rfl, refused⟩)
    · rw [if_neg refused] at decided
      have ready := ready_of_autoStartFailures fresh (not_not.mp refused)
      split at decided
      · rename_i granted
        simp only [Bool.and_eq_true] at granted
        exact .autoStart state event ready.2 granted.1 granted.2 ready.1 decided
      · obtain rfl := Except.ok.inj decided
        exact .slotWait (.inl state) rfl (by simp [guardFailure])

theorem manualStart_row {inp : TransitionInput} {decision : Decision}
    {requestedS : Option Seconds} {row : String}
    (event : inp.event = .manualStartRequested requestedS)
    (state : (inp.state = .idle ∧ row = "T3") ∨ (inp.state = .fault ∧ row = "T40"))
    (decided : manualStart inp requestedS row = .ok decision) : Row inp decision := by
  have whole := decided
  simp only [manualStart] at decided
  split at decided
  · rename_i requested accepted
    have allowed : manualGuardFailures inp (some requested) = [] := accepted
    split at decided
    · obtain rfl := Except.ok.inj decided
      refine .slotWait ?_ rfl (by simp [guardFailure])
      exact state.imp And.left And.left
    · rename_i granted
      split at decided
      · cases decided
      · have starts : decision.session.isSome := by
          obtain rfl := Except.ok.inj decided
          rfl
        exact .manualStart event state allowed (by simpa using granted) whole starts
  · rename_i refused
    obtain rfl := Except.ok.inj decided
    refine record_row inp (.inr rfl) ?_
    rintro result ⟨rfl⟩
    refine ⟨rfl, fun empty => ?_⟩
    rename_i requestedS _ _
    cases requestedS with
    | none => simp [guardFailure, manualGuardFailures] at empty
    | some requested => exact refused requested rfl empty

theorem decideIdle_row {inp : TransitionInput} {decision : Decision}
    (state : inp.state = .idle) (decided : decideIdle inp = .ok decision) : Row inp decision := by
  unfold decideIdle at decided
  split at decided
  · exact evaluateAutoStart_row state (by simp_all [mayStart]) decided
  · exact evaluateAutoStart_row state (by simp_all [mayStart]) decided
  · exact evaluateAutoStart_row state (by simp_all [mayStart]) decided
  · exact manualStart_row ‹_› (.inl ⟨state, rfl⟩) decided
  · obtain rfl := Except.ok.inj decided
    exact .disable ‹_› (.inl state)
  · obtain rfl := Except.ok.inj decided
    exact .configurationInvalid _ _ ‹_›
  · split at decided <;> obtain rfl := Except.ok.inj decided
    · exact noOp_row inp
    · exact .externalOn ‹_› (by simp_all) (.inl state) (.inr (by rw [state]))
  · split at decided <;> obtain rfl := Except.ok.inj decided
    · exact noOp_row inp
    · exact .externalOff ‹_› (by simp_all) (.inl state) (.inr (by rw [state]))
  · obtain rfl := Except.ok.inj decided
    exact noOp_row inp

theorem decideDisabled_row {inp : TransitionInput} {decision : Decision}
    (state : inp.state = .disabled) (decided : decideDisabled inp = .ok decision) :
    Row inp decision := by
  unfold decideDisabled at decided
  split at decided
  · split at decided <;> obtain rfl := Except.ok.inj decided
    · exact .enableFault ‹_› state ‹_›
    · exact .enableIdle ‹_› state ‹_›
  · split at decided <;> obtain rfl := Except.ok.inj decided
    · exact noOp_row inp
    · exact .externalOn ‹_› (by simp_all) (.inr (.inl state)) (.inr (by rw [state]))
  · split at decided
    · obtain rfl := Except.ok.inj decided
      exact .externalOff ‹_› ‹_› (.inr (.inl state)) (.inr (by rw [state]))
    · split at decided
      · exact .closeAccounting (.inl ‹_›) (.inl state) decided
      · obtain rfl := Except.ok.inj decided
        exact noOp_row inp
  · split at decided
    · exact .closeAccounting (.inr ‹_›) (.inl state) decided
    · obtain rfl := Except.ok.inj decided
      exact noOp_row inp
  · obtain rfl := Except.ok.inj decided
    exact record_row inp (.inl rfl) (by rintro _ ⟨rfl⟩; simp [guardFailure])
  · obtain rfl := Except.ok.inj decided
    exact noOp_row inp

theorem decideFault_row {inp : TransitionInput} {decision : Decision}
    (state : inp.state = .fault) (decided : decideFault inp = .ok decision) : Row inp decision := by
  have autoClear : ∀ result, result = faultAutoClearCheck inp → Row inp result := by
    rintro _ rfl
    unfold faultAutoClearCheck
    split
    · exact noOp_row inp
    · split
      · exact noOp_row inp
      · rename_i fault latched guard
        split
        · exact noOp_row inp
        · simp only [Bool.or_eq_true, Bool.not_eq_eq_eq_not, Bool.not_true, not_or,
            Bool.not_eq_false, Option.isSome_iff_ne_none, ne_eq, not_not] at guard
          exact .faultCleared state latched (.inl ⟨rfl, guard.1, guard.2⟩) (by simp_all)
  unfold decideFault at decided
  split at decided
  · exact manualStart_row ‹_› (.inr ⟨state, rfl⟩) decided
  · exact autoClear _ (Except.ok.inj decided).symm
  · split at decided
    · exact .closeAccounting (.inl ‹_›) (.inr state) decided
    · split at decided
      · obtain rfl := Except.ok.inj decided
        exact .externalOff ‹_› ‹_› (.inr (.inr state)) (.inl rfl)
      · exact autoClear _ (Except.ok.inj decided).symm
  · split at decided
    · exact .closeAccounting (.inr ‹_›) (.inr state) decided
    · obtain rfl := Except.ok.inj decided
      exact noOp_row inp
  · split at decided <;> obtain rfl := Except.ok.inj decided
    · exact noOp_row inp
    · exact .externalOn ‹_› (by simp_all) (.inr (.inr state)) (.inl rfl)
  · obtain rfl := Except.ok.inj decided
    unfold clearFaultRequest
    split
    · exact noOp_row inp
    · split
      · exact record_row inp (.inr (by rw [state])) (by rintro _ ⟨rfl⟩; simp [guardFailure])
      · split
        · exact record_row inp (.inr (by rw [state])) (by rintro _ ⟨rfl⟩; simp [guardFailure])
        · exact .faultCleared state ‹_› (.inr ⟨rfl, ‹_›, by simp_all⟩) (by simp_all)
  · obtain rfl := Except.ok.inj decided
    exact .disable ‹_› (.inr state)
  · split at decided <;> obtain rfl := Except.ok.inj decided
    · exact noOp_row inp
    · exact .configurationInvalid _ _ ‹_›
  · obtain rfl := Except.ok.inj decided
    exact noOp_row inp

theorem wateringMoisture_row {inp : TransitionInput} {session : SessionContext}
    {observation : MoistureObservation} {decision : Decision} (state : inp.state = .watering)
    (flowing : inp.session = some session) (event : inp.event = .moistureReport observation)
    (decided : wateringMoisture inp session observation = .ok decision) : Row inp decision := by
  unfold wateringMoisture at decided
  split at decided
  · obtain rfl := Except.ok.inj decided
    exact record_row inp (.inr (by rw [state])) (by simp)
  · have auto : session.mode = .auto := by cases h : session.mode <;> simp_all
    split at decided
    · obtain rfl := Except.ok.inj decided
      exact noOp_row inp
    · have uncommitted : session.pendingTerminationReason = none := by simp_all
      split at decided
      · split at decided
        · cases decided
        · simp only at decided
          split at decided <;> obtain rfl := Except.ok.inj decided
          · exact noOp_row inp
          · exact .refresh state flowing auto uncommitted
      · obtain rfl := Except.ok.inj decided
        exact .commit state flowing uncommitted (.sensorInvalid event auto ‹_›)
      · obtain rfl := Except.ok.inj decided
        exact .commit state flowing uncommitted (.sensorUnavailable event auto ‹_›)
      · obtain rfl := Except.ok.inj decided
        exact noOp_row inp

theorem watchdogFiredRow_row {inp : TransitionInput} {session : SessionContext}
    {token : WatchdogToken} {decision : Decision} (state : inp.state = .watering)
    (flowing : inp.session = some session) (event : inp.event = .watchdogFired token)
    (decided : watchdogFiredRow inp session token = .ok decision) : Row inp decision := by
  unfold watchdogFiredRow at decided
  split at decided
  · obtain rfl := Except.ok.inj decided
    exact noOp_row inp
  · rename_i auto
    split at decided
    · obtain rfl := Except.ok.inj decided
      exact noOp_row inp
    · rename_i uncommitted
      split at decided
      · obtain rfl := Except.ok.inj decided
        exact noOp_row inp
      · rename_i armed
        split at decided
        · cases decided
        · split at decided <;> obtain rfl := Except.ok.inj decided
          · exact timer_row inp (.inl rfl) rfl
          · exact .commit state flowing (by simpa using uncommitted)
              (.sensorStale event (not_not.mp armed) (not_not.mp auto) ‹_› (by simp_all))

theorem decideWatering_row {inp : TransitionInput} {decision : Decision}
    (state : inp.state = .watering) (decided : decideWatering inp = .ok decision) :
    Row inp decision := by
  unfold decideWatering at decided
  cases flowing : inp.session with
  | none => simp [flowing] at decided
  | some session =>
    -- The requests to stop commit their reason once.
    have commitUnless_row : ∀ {reason : CompletionReason},
        Trigger inp session reason none false →
        (if session.pendingTerminationReason.isSome then Except.ok noOp
          else .ok (commitTermination session reason)) = Except.ok (ε := DecideError) decision →
        Row inp decision := by
      intro reason trigger decided
      split at decided <;> obtain rfl := Except.ok.inj decided
      · exact noOp_row inp
      · exact .commit state flowing (by simp_all) trigger
    simp only [flowing] at decided
    split at decided
    case h_1 atUtc event => exact .onConfirmed state flowing event decided
    case h_2 event =>
      split at decided <;> obtain rfl := Except.ok.inj decided
      · exact noOp_row inp
      · rename_i waiting
        simp only [Bool.or_eq_true, not_or, Bool.not_eq_true, Option.isSome_eq_false_iff,
          Option.isNone_iff_eq_none] at waiting
        exact .commit state flowing waiting.1 (.onTimeout event waiting.2)
    case h_3 event =>
      split at decided <;> obtain rfl := Except.ok.inj decided
      · rename_i normal
        exact .pulseEnd state flowing normal.1 normal.2 event
      · exact noOp_row inp
    case h_4 event =>
      split at decided <;> obtain rfl := Except.ok.inj decided
      · rename_i normal
        exact .commit state flowing normal.2 (.manualEnd event normal.1)
      · exact noOp_row inp
    case h_5 observation event => exact wateringMoisture_row state flowing event decided
    case h_6 token event => exact watchdogFiredRow_row state flowing event decided
    case h_7 event => exact commitUnless_row (.stop event) decided
    case h_8 event => exact commitUnless_row (.disable event) decided
    case h_9 event => exact commitUnless_row (.shutdown event) decided
    case h_10 event => exact commitUnless_row (.reload event) decided
    case h_11 event => exact commitUnless_row (.changed event) decided
    case h_12 event =>
      split at decided <;> obtain rfl := Except.ok.inj decided
      · exact noOp_row inp
      · exact .commit state flowing (by simp_all) (.unavailable event)
    -- OFF evidence: the committed reason, or what OFF means to an open session.
    case h_13 atUtc event =>
      split at decided
      · exact .finalize state flowing (.committed (.inl event) ‹_›) decided
      · exact .finalize state flowing (.external event ‹_›) decided
    case h_14 atUtc event =>
      split at decided
      · exact .finalize state flowing (.committed (.inr event) ‹_›) decided
      · rename_i uncommitted
        split at decided
        · obtain rfl := Except.ok.inj decided
          exact .pulseOff state flowing uncommitted ‹_› event
        · refine .finalize state flowing (.manualOff event uncommitted ?_) decided
          cases h : session.mode <;> simp_all
    case h_15 event =>
      obtain rfl := Except.ok.inj decided
      exact .offNotConfirmed state flowing event
    -- A restart finds the valve OFF, or has to close it.
    case h_16 finding event =>
      unfold startupPersistedWateringRow at decided
      split at decided
      · exact .recoveredOff state flowing event decided
      · obtain rfl := Except.ok.inj decided
        exact .recoveryCommit state flowing event (by simp_all)
    case h_17 event =>
      obtain rfl := Except.ok.inj decided
      exact record_row inp (.inl rfl) (by rintro _ ⟨rfl⟩; simp [guardFailure])
    case h_18 =>
      obtain rfl := Except.ok.inj decided
      exact noOp_row inp

theorem soakingRecheck_row {inp : TransitionInput} {session : SessionContext}
    {decision : Decision} (state : inp.state = .soaking) (soaking : inp.session = some session)
    (uncommitted : session.pendingTerminationReason = none) (event : mayStart inp.event = true)
    (qualifies : postQualifies inp = true)
    (decided : soakingRecheck inp session = .ok decision) : Row inp decision := by
  unfold soakingRecheck at decided
  split at decided
  · cases decided
  · rename_i value _
    have completion : ∀ {row : String} {reason : CompletionReason},
        finalizeSoakingCompletion inp { session with lastRecheckValue := some value } row reason
          = decision → Row inp decision := by
      rintro row reason rfl
      exact .soakCompletion state soaking uncommitted qualifies
    simp only at decided
    split at decided
    · exact completion (Except.ok.inj decided)
    · split at decided
      · exact completion (Except.ok.inj decided)
      · split at decided
        · exact completion (Except.ok.inj decided)
        · split at decided
          · exact completion (Except.ok.inj decided)
          · split at decided
            · obtain rfl := Except.ok.inj decided
              exact .soakFault (some value) state soaking uncommitted (.inr ⟨rfl, rfl⟩)
            · split at decided
              · obtain rfl := Except.ok.inj decided
                exact .soakSlotWait state soaking uncommitted qualifies rfl
                  (by simp [guardFailure])
              · rename_i granted
                simp only [Bool.not_eq_true', Bool.not_eq_false, Bool.and_eq_true] at granted
                exact .nextPulse state soaking uncommitted event qualifies granted.1.1
                  granted.1.2 granted.2 decided

theorem soakingMoisture_row {inp : TransitionInput} {session : SessionContext}
    {observation : MoistureObservation} {decision : Decision} (state : inp.state = .soaking)
    (event : mayStart inp.event = true) (soaking : inp.session = some session) (uncommitted : session.pendingTerminationReason = none)
    (decided : soakingMoisture inp session observation = .ok decision) : Row inp decision := by
  unfold soakingMoisture at decided
  split at decided
  · cases decided
  · split at decided
    · obtain rfl := Except.ok.inj decided
      exact record_row inp (.inr (by rw [state])) (by simp)
    · split at decided
      · obtain rfl := Except.ok.inj decided
        exact .soakFault session.lastRecheckValue state soaking uncommitted (.inl ⟨rfl, rfl⟩)
      · split at decided
        · obtain rfl := Except.ok.inj decided
          exact .soakFault session.lastRecheckValue state soaking uncommitted (.inl ⟨rfl, rfl⟩)
        · split at decided
          · exact soakingRecheck_row state soaking uncommitted event ‹_› decided
          · obtain rfl := Except.ok.inj decided
            exact noOp_row inp

theorem soakingDeadlineOrEvaluate_row {inp : TransitionInput} {session : SessionContext}
    {decision : Decision} (state : inp.state = .soaking) (event : mayStart inp.event = true)
    (soaking : inp.session = some session)
    (uncommitted : session.pendingTerminationReason = none)
    (decided : soakingDeadlineOrEvaluate inp session = .ok decision) : Row inp decision := by
  unfold soakingDeadlineOrEvaluate at decided
  split at decided
  · cases decided
  · split at decided
    · obtain rfl := Except.ok.inj decided
      exact noOp_row inp
    · split at decided
      · exact soakingRecheck_row state soaking uncommitted event ‹_› decided
      · split at decided
        · obtain rfl := Except.ok.inj decided
          exact .declined ‹_› (.inr ⟨state, rfl⟩) rfl (by simp [guardFailure])
        · split at decided
          · split at decided
            · cases decided
            · obtain rfl := Except.ok.inj decided
              exact timer_row inp (.inr (by rw [state])) rfl
          · obtain rfl := Except.ok.inj decided
            exact noOp_row inp

theorem soakingGrace_row {inp : TransitionInput} {session : SessionContext}
    {decision : Decision} (state : inp.state = .soaking) (event : mayStart inp.event = true)
    (soaking : inp.session = some session)
    (uncommitted : session.pendingTerminationReason = none)
    (decided : soakingGrace inp session = .ok decision) : Row inp decision := by
  have faulted : ∀ {row : String} {fault : FaultCode}, fault.isSensorOnly = true →
      finalizeSoakingFault session row .sensorFault fault = decision → Row inp decision := by
    rintro row fault sensor rfl
    exact .soakFault session.lastRecheckValue state soaking uncommitted (.inl ⟨rfl, sensor⟩)
  unfold soakingGrace at decided
  split at decided
  · exact soakingRecheck_row state soaking uncommitted event ‹_› decided
  · split at decided
    · cases decided
    · split at decided
      · exact faulted rfl (Except.ok.inj decided)
      · split at decided
        · exact faulted rfl (Except.ok.inj decided)
        · exact faulted rfl (Except.ok.inj decided)

/-- With a committed termination only OFF evidence advances a soak. -/
theorem committedSoak_row {inp : TransitionInput} {session : SessionContext}
    {decision : Decision} (state : inp.state = .soaking) (soaking : inp.session = some session)
    (committed : session.pendingTerminationReason.isSome)
    (decided : decideSoaking inp = .ok decision) : Row inp decision := by
  simp only [decideSoaking, soaking, if_pos committed] at decided
  split at decided <;> obtain rfl := Except.ok.inj decided
  · exact .soakExternal state soaking committed (.inr ‹_›)
  · exact .soakExternal state soaking committed (.inl ‹_›)
  · exact .soakOffNotConfirmed state soaking committed ‹_›
  · exact noOp_row inp

theorem decideSoaking_row {inp : TransitionInput} {decision : Decision}
    (state : inp.state = .soaking) (decided : decideSoaking inp = .ok decision) :
    Row inp decision := by
  cases soaking : inp.session with
  | none => simp [decideSoaking, soaking] at decided
  | some session =>
    by_cases committed : session.pendingTerminationReason.isSome
    · exact committedSoak_row state soaking committed decided
    · have uncommitted : session.pendingTerminationReason = none := by simpa using committed
      simp only [decideSoaking, soaking, if_neg committed] at decided
      split at decided
      case h_1 event =>
        exact soakingMoisture_row state (by rw [event]; rfl) soaking uncommitted decided
      case h_2 event =>
        exact soakingDeadlineOrEvaluate_row state (by rw [event]; rfl) soaking uncommitted decided
      case h_3 event =>
        exact soakingDeadlineOrEvaluate_row state (by rw [event]; rfl) soaking uncommitted decided
      case h_4 event =>
        exact soakingDeadlineOrEvaluate_row state (by rw [event]; rfl) soaking uncommitted decided
      case h_5 event =>
        exact soakingGrace_row state (by rw [event]; rfl) soaking uncommitted decided
      case h_6 =>
        obtain rfl := Except.ok.inj decided
        exact .soakFault session.lastRecheckValue state soaking uncommitted (.inr ⟨rfl, rfl⟩)
      case h_7 event =>
        obtain rfl := Except.ok.inj decided
        exact .soakInterference state soaking uncommitted event
      case h_8 event =>
        obtain rfl := Except.ok.inj decided
        exact .soakCancel state soaking uncommitted (.inr ⟨rfl, .inl ⟨event, rfl⟩⟩)
      case h_9 event =>
        obtain rfl := Except.ok.inj decided
        exact .soakCancel state soaking uncommitted (.inl ⟨event, rfl, rfl⟩)
      case h_10 event =>
        obtain rfl := Except.ok.inj decided
        exact .soakPreserved state (by simp [soaking]) event
      case h_11 event =>
        obtain rfl := Except.ok.inj decided
        exact .soakCancel state soaking uncommitted (.inr ⟨rfl, .inr (.inl ⟨event, rfl⟩)⟩)
      case h_12 event =>
        obtain rfl := Except.ok.inj decided
        exact .soakCancel state soaking uncommitted (.inr ⟨rfl, .inr (.inr ⟨event, rfl⟩)⟩)
      case h_13 trusted runId unsafeFault event =>
        cases trusted with
        | true => exact .soakAdopted state soaking uncommitted event decided
        | false => exact .soakTerminated state soaking uncommitted event decided
      case h_14 =>
        obtain rfl := Except.ok.inj decided
        exact record_row inp (.inl rfl) (by rintro _ ⟨rfl⟩; simp [guardFailure])
      case h_15 =>
        obtain rfl := Except.ok.inj decided
        exact noOp_row inp

/-- Every decision of the state machine is one of the rows. -/
theorem decide_row {inp : TransitionInput} {decision : Decision}
    (decided : decide inp = .ok decision) : Row inp decision := by
  unfold decide at decided
  split at decided
  · obtain rfl := Except.ok.inj decided
    exact .integrityLost ‹_›
  · obtain rfl := Except.ok.inj decided
    exact .configurationInvalid _ _ ‹_›
  · split at decided
    · exact decideIdle_row ‹_› decided
    · exact decideDisabled_row ‹_› decided
    · exact decideWatering_row ‹_› decided
    · exact decideSoaking_row ‹_› decided
    · exact decideFault_row ‹_› decided

end MoistureLoop.StateMachine
