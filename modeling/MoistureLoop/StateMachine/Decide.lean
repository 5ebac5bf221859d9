import MoistureLoop.Models.Transition

/-! # The pure state machine

`decide` of `state_machine.py`, function by function. WATERING exits have two
phases: a terminal trigger commits the session's reason and requests the one
OFF operation, and OFF evidence later finalizes the row of that reason. -/

open MoistureLoop.Action

namespace MoistureLoop.StateMachine

/-! ## Guard helpers -/

def guardEnabled : String := "G-EN"
def guardFresh : String := "G-FRESH"
def guardStart : String := "G-START"
def guardPost : String := "G-POST"
def guardActuator : String := "G-ACT"
def guardSlot : String := "G-SLOT"
def guardDailyFit : String := "G-DAY"
def guardInterval : String := "G-INT"
def guardManualSensor : String := "G-MANUAL-SENSOR"
def guardManualSafe : String := "G-MANUAL-SAFE"

/-- G-FRESH: the current observation is VALID and fresh. -/
def freshValid (inp : TransitionInput) : Bool :=
  inp.observation.classification == .valid &&
    inp.observation.isFresh inp.nowUtc inp.config.sensorMaxAgeS

/-- G-INT: the minimum automatic-session interval has elapsed. -/
def intervalElapsed (inp : TransitionInput) : Bool :=
  match inp.lastSessionEndUtc with
  | none => true
  | some lastEnd => decide (inp.config.minSessionIntervalS ≤ inp.nowUtc - lastEnd)

/-- G-ACT: available and terminal OFF. -/
def actuatorReady (inp : TransitionInput) : Bool :=
  inp.actuator.available && inp.actuator.provenOff

/-- G-DAY: current-day runtime plus a whole pulse is within the daily limit. -/
def dailyFits (inp : TransitionInput) : Bool :=
  decide (inp.dailyRuntimeS + inp.config.pulseDurationS ≤ inp.config.maxDailyRuntimeS)

/-- G-SESS: session runtime plus a whole pulse is within the session limit. -/
def sessionFits (inp : TransitionInput) (session : SessionContext) : Bool :=
  decide (session.sessionRuntimeS + inp.config.pulseDurationS ≤ inp.config.maxSessionRuntimeS)

/-- G-POST: VALID, fresh, and reported at or after the recheck deadline. The
assertion of the source is implied by freshness. -/
def postQualifies (inp : TransitionInput) : Bool :=
  match inp.session with
  | none => false
  | some session =>
    match session.recheckNotBeforeUtc, inp.observation.reportedAtUtc with
    | some notBefore, some reportedAt => freshValid inp && decide (notBefore ≤ reportedAt)
    | _, _ => false

def dailyRemaining (inp : TransitionInput) : Seconds :=
  inp.config.maxDailyRuntimeS - inp.dailyRuntimeS

def noOp : Decision := { noOp := true }

def guardFailure (failed : List String) : GuardResult := { passed := false, failedGuards := failed }

/-! ## Cross-state rows -/

/-- T52: integrity loss of an initialized Store. -/
def integrityLost (inp : TransitionInput) : Decision :=
  { transitionId := some "T52"
    newState := some .fault
    actions := [persistState "integrity_reconstruction",
      emitFaultSet .restoredFromUnsafeState inp.activeFault]
    fault := some .restoredFromUnsafeState }

/-- T5 (IDLE, FAULT) and T53 (setup): invalid configuration blocks operation. -/
def configurationInvalidRow (inp : TransitionInput) (row : String) : Decision :=
  { transitionId := some row
    newState := some .fault
    actions := [persistState "configuration_invalid",
      emitFaultSet .configurationInvalid inp.activeFault]
    fault := some .configurationInvalid }

/-! ## Pulse starts -/

/-- T1 (new session) and T25 (next pulse): persist the intent, arm the freshness
watchdog no later than ON, then request ON. -/
def startAutoPulse (inp : TransitionInput) (session : Option SessionContext) :
    Except DecideError Decision :=
  match inp.observation.reportedAtUtc with
  | none => .error .assertion
  | some reportedAt =>
    let freshUntil := reportedAt + inp.config.sensorMaxAgeS
    let onTimeout := armTimer .onConfirmTimeout (inp.nowUtc + inp.config.actuatorConfirmTimeoutS)
    match session with
    | none =>
      match inp.newSessionIdentity with
      | none => .error (.value "new_session_identity is required to create a session")
      | some identity =>
        .ok
          { transitionId := some "T1"
            newState := some .watering
            actions := [persistState "hazard_intent", armWatchdog ⟨1, freshUntil⟩, turnOn,
              onTimeout, emitSessionStarted]
            session := some
              { sessionId := identity.sessionId
                ownerRunId := identity.ownerRunId
                configFingerprint := identity.configFingerprint
                mode := .auto
                startedAtUtc := inp.nowUtc
                cycle := 1
                pulseIntentAtUtc := some inp.nowUtc
                sensorFreshUntilUtc := some freshUntil
                sensorFreshnessWatchdogGeneration := 1
                moistureAtStart := inp.observation.value } }
    | some session =>
      let generation := session.sensorFreshnessWatchdogGeneration + 1
      .ok
        { transitionId := some "T25"
          newState := some .watering
          actions := [persistState "hazard_intent", armWatchdog ⟨generation, freshUntil⟩, turnOn,
            onTimeout]
          session := some { session with
            cycle := session.cycle + 1
            pulseIntentAtUtc := some inp.nowUtc
            pulseCommandedAtUtc := none
            pulseConfirmedAtUtc := none
            pulseEndsAtUtc := none
            offConfirmedAtUtc := none
            soakEndsAtUtc := none
            recheckNotBeforeUtc := none
            recheckGraceDeadlineAtUtc := none
            sensorFreshUntilUtc := some freshUntil
            sensorFreshnessWatchdogGeneration := generation } }

/-- G-FRESH and, on a fresh observation, G-START; equality at the start threshold
does not start. A VALID fresh observation without a value trips the assertion. -/
def freshnessFailures (inp : TransitionInput) : Except DecideError (List String) :=
  if freshValid inp then
    match inp.observation.value with
    | none => .error .assertion
    | some value => .ok (if value < inp.config.startThreshold then [] else [guardStart])
  else .ok [guardFresh]

def autoStartFailures (inp : TransitionInput) (freshness : List String) : List String :=
  (if inp.enabled then [] else [guardEnabled]) ++ freshness
    ++ (if intervalElapsed inp then [] else [guardInterval])
    ++ (if actuatorReady inp then [] else [guardActuator])
    ++ (if dailyFits inp then [] else [guardDailyFit])

/-- T1/T2 and the slot wait, which is not a transition. -/
def evaluateAutoStart (inp : TransitionInput) : Except DecideError Decision :=
  match freshnessFailures inp with
  | .error err => .error err
  | .ok freshness =>
    let failed := autoStartFailures inp freshness
    if failed ≠ [] then
      -- T2 records the guard result only; an offered grant is declined.
      .ok { transitionId := some "T2"
            newState := some .idle
            actions := if inp.event = .slotGranted then [releaseSlot] else []
            guardResult := some (guardFailure failed) }
    else if inp.resource.slotGranted && inp.resource.blockersEmpty then
      startAutoPulse inp none
    else
      .ok { actions := [requestSlot], guardResult := some (guardFailure [guardSlot]) }

/-- The refusal list of a manual start; a non-finite duration is `none`. -/
def manualGuardFailures (inp : TransitionInput) (requestedS : Option Seconds) : List String :=
  (if (match requestedS with | none => false | some requested => decide (0 < requested)) then []
    else [guardManualSafe ++ ":invalid_duration"])
    ++ (if inp.enabled then [] else [guardEnabled])
    ++ (if inp.session.isSome then [guardManualSafe ++ ":active_session"] else [])
    ++ (if inp.activeFault.all FaultCode.allowsManual then [] else [guardManualSensor])
    ++ (if actuatorReady inp then [] else [guardActuator])
    ++ (if dailyRemaining inp ≤ 0 then [guardManualSafe ++ ":daily_exhausted"] else [])
    ++ (if inp.resource.blockersEmpty then [] else [guardManualSafe ++ ":water_resource_occupied"])

def manualCaps (inp : TransitionInput) : List (Seconds × ManualClampReason) :=
  [(inp.config.manualMaxDurationS, .manualMaxDuration),
   (inp.config.maxSessionRuntimeS, .maxSessionRuntime),
   (dailyRemaining inp, .remainingDailyBudget)]

/-- Effective duration and every cap strictly below the request. -/
def clampManual (inp : TransitionInput) (requested : Seconds) : Seconds × List ManualClampReason :=
  (((manualCaps inp).map Prod.fst).foldl min requested,
   ((manualCaps inp).filter fun cap => decide (cap.1 < requested)).map Prod.snd)

/-- The retained sensor fault of T40; the guards admit only sensor-only codes. -/
def retainedFault (activeFault : Option FaultCode) : Option SensorFault :=
  match activeFault with
  | none => none
  | some fault => if sensor : fault.isSensorOnly = true then some ⟨fault, sensor⟩ else none

/-- T3 (IDLE) and T40 (sensor-only FAULT), with refusals and the slot wait. -/
def manualStart (inp : TransitionInput) (requestedS : Option Seconds) (row : String) :
    Except DecideError Decision :=
  let failed := manualGuardFailures inp requestedS
  match requestedS, failed with
  | some requested, [] =>
    if !inp.resource.slotGranted then
      .ok { actions := [requestSlot], guardResult := some (guardFailure [guardSlot]) }
    else
      match inp.newSessionIdentity with
      | none => .error (.value "new_session_identity is required to create a session")
      | some identity =>
        .ok
          { transitionId := some row
            newState := some .watering
            actions := [persistState "hazard_intent", turnOn,
              armTimer .onConfirmTimeout (inp.nowUtc + inp.config.actuatorConfirmTimeoutS),
              emitSessionStarted]
            session := some
              { sessionId := identity.sessionId
                ownerRunId := identity.ownerRunId
                configFingerprint := identity.configFingerprint
                mode := .manual
                startedAtUtc := inp.nowUtc
                cycle := 0
                pulseIntentAtUtc := some inp.nowUtc
                manualRequestedDurationS := some requested
                manualEffectiveDurationS := some (clampManual inp requested).1
                manualClampReasons := (clampManual inp requested).2
                retainedSensorFault := if row = "T40" then retainedFault inp.activeFault else none
                moistureAtStart :=
                  if inp.observation.classification = .valid then inp.observation.value
                  else none } }
  | _, failed =>
    .ok
      { transitionId := if row = "T40" then some "T41" else none
        newState := some inp.state
        guardResult := some (guardFailure failed) }

/-! ## Delayed OFF-proof accounting closure -/

/-- Close the accounting interval: restart recovery is anchored at the recorded
intent, everything else at the command. -/
def closeRuntime (session : SessionContext) (offAt : Instant) (reason : CompletionReason) :
    SessionContext :=
  let anchor := if reason = .restartRecovery then session.pulseIntentAtUtc
    else session.pulseCommandedAtUtc
  let delta := match anchor with
    | none => 0
    | some anchor => max 0 (offAt - anchor)
  { session with
    offConfirmedAtUtc := some offAt
    sessionRuntimeS := session.sessionRuntimeS + delta }

/-- Close an open accounting record on later OFF proof; the committed reason and
the fault remain. -/
def closeOpenAccounting (inp : TransitionInput) (offAt : Instant) : Except DecideError Decision :=
  match inp.session with
  | none => .error .assertion
  | some session =>
    match session.pendingTerminationReason with
    | none => .error .assertion
    | some reason =>
      .ok
        { actions := [persistState "delayed_accounting_closed",
            removeBlocker .integrationOffUnconfirmed, releaseSlot, emitSessionFinished]
          reason := some reason
          clearSession := true
          finalSession := some (closeRuntime session offAt reason) }

/-! ## IDLE -/

def decideIdle (inp : TransitionInput) : Except DecideError Decision :=
  match inp.event with
  | .autoEvaluate | .moistureReport _ | .slotGranted => evaluateAutoStart inp
  | .manualStartRequested requestedS => manualStart inp requestedS "T3"
  | .disableRequested =>
    -- T4 also withdraws any queued or held claim on the entry-wide slot.
    .ok { transitionId := some "T4"
          newState := some .disabled
          actions := [persistState "disabled", releaseSlot] }
  | .configurationInvalid _ => .ok (configurationInvalidRow inp "T5")
  | .externalActuatorOn =>
    if inp.externalOn then .ok noOp
    else .ok { transitionId := some "T54"
               newState := some .idle
               actions := [setExternalOn true, addBlocker .externalFlow] }
  | .externalActuatorOff _ =>
    if !inp.externalOn then .ok noOp
    else .ok { transitionId := some "T58"
               newState := some .idle
               actions := [setExternalOn false, removeBlocker .externalFlow] }
  | _ => .ok noOp

/-! ## DISABLED -/

def decideDisabled (inp : TransitionInput) : Except DecideError Decision :=
  match inp.event with
  | .enableRequested =>
    match inp.activeFault with
    | some fault =>
      .ok { transitionId := some "T46"
            newState := some .fault
            actions := [persistState "enabled"]
            fault := some fault }
    | none =>
      .ok { transitionId := some "T47"
            newState := some .idle
            actions := [persistState "enabled", scheduleEvaluation] }
  | .externalActuatorOn =>
    if inp.externalOn then .ok noOp
    else .ok { transitionId := some "T55"
               newState := some .disabled
               actions := [setExternalOn true, addBlocker .externalFlow] }
  | .externalActuatorOff atUtc =>
    if inp.externalOn then
      .ok { transitionId := some "T59"
            newState := some .disabled
            actions := [setExternalOn false, removeBlocker .externalFlow] }
    else if inp.session.isSome then closeOpenAccounting inp atUtc
    else .ok noOp
  | .offConfirmed atUtc =>
    if inp.session.isSome then closeOpenAccounting inp atUtc else .ok noOp
  | .manualStartRequested _ => .ok { guardResult := some (guardFailure [guardEnabled]) }
  | _ => .ok noOp

/-! ## WATERING -/

/-- Commit the first terminal request and request the one OFF. -/
def commitTermination (session : SessionContext) (reason : CompletionReason)
    (fault : Option FaultCode := none) (defensive : Bool := false) : Decision :=
  { actions := [persistState "termination_committed"]
      ++ (match fault with
        | none => []
        | some fault => [emitFaultSet fault (session.retainedSensorFault.map Subtype.val)])
      ++ [executeOff defensive]
    fault := fault
    session := some { session with pendingTerminationReason := some reason } }

def pulseEnd (inp : TransitionInput) (session : SessionContext) (atUtc : Instant) :
    Option (Instant × TimerKind) :=
  match session.mode with
  | .auto => some (atUtc + inp.config.pulseDurationS, .pulseEnd)
  | .manual =>
    session.manualEffectiveDurationS.map fun effective => (atUtc + effective, .manualEnd)

/-- Record the ON confirmation and arm the absolute deadline. -/
def onConfirmedRow (inp : TransitionInput) (session : SessionContext) (atUtc : Instant) :
    Except DecideError Decision :=
  match pulseEnd inp session atUtc with
  | none => .error .assertion
  | some (ends, timer) =>
    .ok { actions := [persistState "on_confirmed"]
            ++ (if session.pendingTerminationReason = none then [armTimer timer ends] else [])
          session := some { session with
            pulseConfirmedAtUtc := some atUtc
            pulseEndsAtUtc := some ends } }

def wateringMoisture (inp : TransitionInput) (session : SessionContext)
    (observation : MoistureObservation) : Except DecideError Decision :=
  if session.mode = .manual then
    -- T12: sensor state never terminates MANUAL.
    .ok { transitionId := some "T12", newState := some .watering }
  else if session.pendingTerminationReason.isSome then .ok noOp
  else match observation.classification with
    | .valid =>
      match observation.reportedAtUtc with
      | none => .error .assertion
      | some reportedAt =>
        let newFresh := reportedAt + inp.config.sensorMaxAgeS
        -- An older replayed report can never shorten the deadline.
        if session.sensorFreshUntilUtc.any (fun current => decide (newFresh < current)) then
          .ok noOp
        else
          let generation := session.sensorFreshnessWatchdogGeneration + 1
          .ok { transitionId := some "T56"
                newState := some .watering
                actions := [armWatchdog ⟨generation, newFresh⟩]
                session := some { session with
                  sensorFreshUntilUtc := some newFresh
                  sensorFreshnessWatchdogGeneration := generation } }
    | .invalid => .ok (commitTermination session .sensorFault (some .sensorInvalid))
    | .unavailable => .ok (commitTermination session .sensorFault (some .sensorUnavailable))
    -- Staleness of flowing AUTO water is decided by the freshness watchdog.
    | .stale => .ok noOp

def watchdogFiredRow (inp : TransitionInput) (session : SessionContext) (token : WatchdogToken) :
    Except DecideError Decision :=
  if session.mode ≠ .auto then .ok noOp
  else if session.pendingTerminationReason.isSome then .ok noOp
  else if inp.armedWatchdog ≠ some token then .ok noOp
  else match session.sensorFreshUntilUtc with
    | none => .error .assertion
    | some freshUntil =>
      if inp.nowUtc < freshUntil then
        .ok { actions :=
                [armWatchdog ⟨session.sensorFreshnessWatchdogGeneration, freshUntil⟩] }
      else .ok (commitTermination session .sensorFault (some .sensorStale))

/-- T6: confirmed normal AUTO pulse OFF arms the full soak. -/
def pulseOffToSoaking (inp : TransitionInput) (session : SessionContext) (offAt : Instant) :
    Decision :=
  let soakEnds := offAt + inp.config.soakDurationS
  { transitionId := some "T6"
    newState := some .soaking
    actions := [persistState "soaking", armTimer .soakEnd soakEnds, releaseSlot]
    session := some { closeRuntime session offAt .targetReached with
      soakEndsAtUtc := some soakEnds
      recheckNotBeforeUtc := some soakEnds
      recheckGraceDeadlineAtUtc := some (soakEnds + inp.config.sensorMaxAgeS) } }

/-- T7/T8/T9: the retained fault is re-evaluated at terminal OFF confirmation. -/
def finalizeManualComplete (inp : TransitionInput) (closed : SessionContext)
    (extraActions : List Action) : Decision :=
  let baseActions := extraActions ++ [persistState "session_finalized",
    removeBlocker .integrationOffUnconfirmed, releaseSlot, emitSessionFinished]
  let (row, destination, actions, fault, clearFault) :=
    match closed.retainedSensorFault with
    | none => ("T7", ControllerState.idle, baseActions, none, false)
    | some retained =>
      if freshValid inp then
        ("T9", ControllerState.idle, baseActions ++ [emitFaultCleared retained.val], none, true)
      else ("T8", ControllerState.fault, baseActions, some retained.val, false)
  { transitionId := some row
    -- Disable controls the state.
    newState := some (if inp.enabled then destination else .disabled)
    actions := actions
    reason := some .manualComplete
    fault := fault
    clearFault := clearFault
    clearSession := true
    finalSession := some closed }

/-- The destination of a finalized session: the `POST(fault)` rule with the
Disable override, the fault to latch, extra actions and whether to clear. -/
def postDestination (inp : TransitionInput) (closed : SessionContext) (reason : CompletionReason) :
    ControllerState × Option FaultCode × List Action × Bool :=
  if reason = .zoneDisabled then (.disabled, none, [], false)
  else if reason = .sensorFault ∨ reason = .actuatorFault then
    (if inp.enabled then .fault else .disabled, inp.activeFault, [], false)
  else if !inp.enabled then (.disabled, none, [], false)
  else
    let retained := closed.retainedSensorFault.map Subtype.val
    let newFault := if inp.activeFault ≠ retained then inp.activeFault else none
    match newFault, retained with
    | some fault, _ => (.fault, some fault, [], false)
    | none, some retained =>
      if freshValid inp then (.idle, none, [emitFaultCleared retained], true)
      else (.fault, some retained, [], false)
    | none, none => (.idle, none, [], false)

/-- The row of a committed reason: `_SENSOR_FAULT_ROWS`, `_CANCELLATION_ROWS`
and the fixed rows. -/
def finalizeRow (activeFault : Option FaultCode) (reason : CompletionReason) :
    Except DecideError String :=
  match reason with
  | .restartRecovery => .ok "T48"
  | .sensorFault =>
    match activeFault with
    | none => .error .assertion
    | some .sensorUnavailable => .ok "T10"
    | some .sensorInvalid => .ok "T11"
    | some .sensorStale => .ok "T57"
    | some _ => .error .key
  | .actuatorFault => .ok (if activeFault = some .actuatorUnavailable then "T13" else "T14")
  | .userStop => .ok "T17"
  | .zoneDisabled => .ok "T18"
  | .homeAssistantShutdown => .ok "T19"
  | .configReload => .ok "T20"
  | .configChanged => .ok "T21"
  | .externalActuatorStateChange => .ok "T16"
  | _ => .error .key

def finalizeWatering (inp : TransitionInput) (session : SessionContext) (reason : CompletionReason)
    (offAt : Instant) (extraActions : List Action := []) : Except DecideError Decision :=
  let closed := closeRuntime session offAt reason
  if reason = .manualComplete then .ok (finalizeManualComplete inp closed extraActions)
  else
    let (destination, destFault, clearActions, clearFault) := postDestination inp closed reason
    match finalizeRow inp.activeFault reason with
    | .error err => .error err
    | .ok row =>
      .ok { transitionId := some row
            newState := some destination
            actions := extraActions ++ [persistState "session_finalized",
              removeBlocker .integrationOffUnconfirmed, releaseSlot, emitSessionFinished]
              ++ clearActions
            reason := some reason
            fault := destFault
            -- The actuator fault supersedes; sensor context stays secondary.
            secondaryFault := if reason = .actuatorFault then
              closed.retainedSensorFault.map Subtype.val else none
            clearFault := clearFault
            clearSession := true
            finalSession := some closed }

/-- T15, or T49 during restart recovery: OFF unproven after all retries. -/
def offNotConfirmedRow (inp : TransitionInput) (session : SessionContext) : Decision :=
  let (row, committed) :=
    if session.pendingTerminationReason = some .restartRecovery then
      ("T49", CompletionReason.restartRecovery)
    else ("T15", CompletionReason.actuatorFault)
  { transitionId := some row
    newState := some .fault
    actions := [persistState "off_unconfirmed", addBlocker .integrationOffUnconfirmed,
      emitFaultSet .actuatorOffTimeout inp.activeFault]
    reason := some committed
    fault := some .actuatorOffTimeout
    secondaryFault := session.retainedSensorFault.map Subtype.val
    session := some { session with
      pendingTerminationReason := some committed
      runtimeEstimated := true
      runtimeEstimationReason := .offUnconfirmed } }

/-- Never resume a persisted pulse: close it conservatively when found OFF,
else commit restart recovery and issue the defensive OFF. -/
def startupPersistedWateringRow (inp : TransitionInput) (session : SessionContext)
    (finding : ActuatorFinding) : Except DecideError Decision :=
  let recovered (estimation : RuntimeEstimationReason) : SessionContext := { session with
    pendingTerminationReason := some .restartRecovery
    runtimeEstimated := true
    runtimeEstimationReason := estimation }
  match finding with
  | .off =>
    finalizeWatering inp (recovered .restartFoundOffUnknownStop) .restartRecovery inp.nowUtc
  | _ =>
    .ok
      { actions := [persistState "restart_recovery", addBlocker .integrationOffUnconfirmed,
          executeOff true]
        session := some
          (recovered (if finding = .on then .restartFoundOn else .offUnconfirmed)) }

def decideWatering (inp : TransitionInput) : Except DecideError Decision :=
  match inp.session with
  | none => .error (.value "WATERING requires an active session")
  | some session =>
    let commitUnless (reason : CompletionReason) : Except DecideError Decision :=
      -- The first terminal request owns the reason.
      if session.pendingTerminationReason.isSome then .ok noOp
      else .ok (commitTermination session reason)
    match inp.event with
    | .onConfirmed atUtc => onConfirmedRow inp session atUtc
    | .onConfirmTimeout =>
      if session.pendingTerminationReason.isSome || session.pulseConfirmedAtUtc.isSome then
        .ok noOp
      else
        .ok (commitTermination session .actuatorFault (some .actuatorOnTimeout) true)
    | .pulseDeadlineReached =>
      if session.mode = .auto ∧ session.pendingTerminationReason = none then
        .ok { actions := [executeOff false] }
      else .ok noOp
    | .manualDeadlineReached =>
      if session.mode = .manual ∧ session.pendingTerminationReason = none then
        .ok (commitTermination session .manualComplete)
      else .ok noOp
    | .moistureReport observation => wateringMoisture inp session observation
    | .watchdogFired token => watchdogFiredRow inp session token
    | .stopRequested => commitUnless .userStop
    | .disableRequested => commitUnless .zoneDisabled
    | .homeAssistantShutdown => commitUnless .homeAssistantShutdown
    | .configEntryReload => commitUnless .configReload
    | .configChangedPrepare => commitUnless .configChanged
    | .actuatorBecameUnavailable =>
      if session.pendingTerminationReason.isSome then .ok noOp
      else .ok (commitTermination session .actuatorFault (some .actuatorUnavailable) true)
    | .externalActuatorOff atUtc =>
      match session.pendingTerminationReason with
      | some pending => finalizeWatering inp session pending atUtc
      | none =>
        -- T16: external OFF is trustworthy evidence; OFF is still issued.
        finalizeWatering inp session .externalActuatorStateChange atUtc [executeOff true]
    | .offConfirmed atUtc =>
      match session.pendingTerminationReason with
      | some pending => finalizeWatering inp session pending atUtc
      | none =>
        if session.mode = .auto then .ok (pulseOffToSoaking inp session atUtc)
        else finalizeWatering inp session .manualComplete atUtc
    | .offNotConfirmed => .ok (offNotConfirmedRow inp session)
    | .startupPersistedWatering finding => startupPersistedWateringRow inp session finding
    | .manualStartRequested _ =>
      .ok { guardResult := some (guardFailure [guardManualSafe ++ ":active_session"]) }
    | _ => .ok noOp

/-! ## SOAKING -/

def finalizeSoakingCompletion (inp : TransitionInput) (session : SessionContext) (row : String)
    (reason : CompletionReason) : Decision :=
  { transitionId := some row
    newState := some (if inp.enabled then .idle else .disabled)
    actions := [persistState "session_finalized", releaseSlot, emitSessionFinished]
    reason := some reason
    clearSession := true
    finalSession := some session }

def finalizeSoakingFault (session : SessionContext) (row : String) (reason : CompletionReason)
    (fault : FaultCode) : Decision :=
  { transitionId := some row
    newState := some .fault
    actions := [persistState "session_finalized",
      emitFaultSet fault (session.retainedSensorFault.map Subtype.val), releaseSlot,
      emitSessionFinished]
    reason := some reason
    fault := some fault
    clearSession := true
    finalSession := some session }

def finalizeSoakingCancel (session : SessionContext) (row : String) (reason : CompletionReason)
    (destination : ControllerState) : Decision :=
  { transitionId := some row
    newState := some destination
    actions := [persistState "session_finalized", executeOff true, releaseSlot,
      emitSessionFinished]
    reason := some reason
    clearSession := true
    finalSession := some session }

/-- T33: the defensive OFF after external interference is confirmed. -/
def finalizeSoakingExternal (inp : TransitionInput) (session : SessionContext) (offAt : Instant) :
    Decision :=
  { transitionId := some "T33"
    newState := some (if inp.enabled then .idle else .disabled)
    actions := [persistState "session_finalized", removeBlocker .integrationOffUnconfirmed,
      releaseSlot, emitSessionFinished]
    reason := some .externalActuatorStateChange
    clearSession := true
    finalSession := some (closeRuntime session offAt .externalActuatorStateChange) }

/-- T34: external ON during SOAKING and OFF cannot be proven. -/
def soakingOffNotConfirmed (inp : TransitionInput) (session : SessionContext) : Decision :=
  { transitionId := some "T34"
    newState := some .fault
    actions := [persistState "off_unconfirmed",
      emitFaultSet .actuatorOffTimeout inp.activeFault]
    reason := some .actuatorFault
    fault := some .actuatorOffTimeout
    secondaryFault := session.retainedSensorFault.map Subtype.val
    session := some { session with
      pendingTerminationReason := some .actuatorFault
      runtimeEstimated := true
      runtimeEstimationReason := .offUnconfirmed } }

/-- Qualifying recheck: T24, T26-T28, T32, T25 or a slot wait. -/
def soakingRecheck (inp : TransitionInput) (session : SessionContext) :
    Except DecideError Decision :=
  match inp.observation.value with
  | none => .error .assertion
  | some value =>
    let updated := { session with lastRecheckValue := some value }
    if inp.config.targetThreshold ≤ value then
      .ok (finalizeSoakingCompletion inp updated "T24" .targetReached)
    else if !(updated.cycle < inp.config.maxCycles) then
      .ok (finalizeSoakingCompletion inp updated "T26" .maxCycles)
    else if !sessionFits inp updated then
      .ok (finalizeSoakingCompletion inp updated "T27" .maxSessionRuntime)
    else if !dailyFits inp then
      .ok (finalizeSoakingCompletion inp updated "T28" .dailyRuntimeLimit)
    else if !inp.actuator.available then
      .ok (finalizeSoakingFault updated "T32" .actuatorFault .actuatorUnavailable)
    else if !(inp.resource.slotGranted && inp.resource.blockersEmpty && inp.actuator.provenOff) then
      .ok { actions := [requestSlot]
            guardResult := some (guardFailure [guardSlot])
            session := some updated }
    else startAutoPulse inp (some updated)

/-- The effective time of a report: its own timestamp, else now. -/
def effectiveAt (inp : TransitionInput) (observation : MoistureObservation) : Instant :=
  observation.reportedAtUtc.getD inp.nowUtc

def soakingMoisture (inp : TransitionInput) (session : SessionContext)
    (observation : MoistureObservation) : Except DecideError Decision :=
  match session.soakEndsAtUtc with
  | none => .error .assertion
  | some soakEnds =>
    if effectiveAt inp observation < soakEnds then
      -- T22: pre-deadline reports update observability only.
      .ok { transitionId := some "T22", newState := some .soaking }
    else if observation.classification = .invalid then
      .ok (finalizeSoakingFault session "T29" .sensorFault .sensorInvalid)
    else if observation.classification = .unavailable then
      .ok (finalizeSoakingFault session "T30" .sensorFault .sensorUnavailable)
    else if postQualifies inp then soakingRecheck inp session
    else .ok noOp

def soakingDeadlineOrEvaluate (inp : TransitionInput) (session : SessionContext) :
    Except DecideError Decision :=
  match session.soakEndsAtUtc with
  | none => .error .assertion
  | some soakEnds =>
    if inp.nowUtc < soakEnds then .ok noOp
    else if postQualifies inp then soakingRecheck inp session
    else if inp.event = .slotGranted then
      .ok { actions := [releaseSlot], guardResult := some (guardFailure [guardPost]) }
    else if inp.event = .soakDeadlineReached then
      match session.recheckGraceDeadlineAtUtc with
      | none => .error .assertion
      | some grace =>
        .ok { transitionId := some "T23"
              newState := some .soaking
              actions := [armTimer .grace grace] }
    else .ok noOp

/-- Grace deadline: re-check the current observation before faulting. -/
def soakingGrace (inp : TransitionInput) (session : SessionContext) :
    Except DecideError Decision :=
  if postQualifies inp then soakingRecheck inp session
  else match session.soakEndsAtUtc with
    | none => .error .assertion
    | some soakEnds =>
      if inp.observation.classification = .invalid ∧ soakEnds ≤ effectiveAt inp inp.observation then
        .ok (finalizeSoakingFault session "T29" .sensorFault .sensorInvalid)
      else if inp.observation.classification = .unavailable then
        .ok (finalizeSoakingFault session "T30" .sensorFault .sensorUnavailable)
      else .ok (finalizeSoakingFault session "T31" .sensorFault .sensorStale)

/-- T50 adopts a trusted soak under the new run; T51 terminates it. -/
def startupPersistedSoakingRow (inp : TransitionInput) (session : SessionContext) (trusted : Bool)
    (currentRunId : Option String) (unsafeFault : Option FaultCode) :
    Except DecideError Decision :=
  if trusted then
    match currentRunId, session.soakEndsAtUtc, session.recheckGraceDeadlineAtUtc with
    | none, _, _ => .error (.value "trusted SOAKING adoption requires current_run_id")
    | some _, none, _ => .error .assertion
    | some _, some _, none => .error .assertion
    | some runId, some soakEnds, some grace =>
      .ok { transitionId := some "T50"
            newState := some .soaking
            actions := [persistState "soaking_owner_rebase"]
              ++ (if inp.nowUtc < soakEnds then [armTimer .soakEnd soakEnds]
                else if inp.nowUtc < grace then [armTimer .grace grace]
                else [])
            session := some { session with ownerRunId := runId } }
  else
    let (destination, faultActions) := match unsafeFault with
      | some fault => (ControllerState.fault, [emitFaultSet fault inp.activeFault])
      | none => (if inp.enabled then .idle else .disabled, [])
    .ok { transitionId := some "T51"
          newState := some destination
          actions := [persistState "session_finalized"] ++ faultActions ++ [emitSessionFinished]
          reason := some .restartRecovery
          fault := unsafeFault
          clearSession := true
          finalSession := some session }

def decideSoaking (inp : TransitionInput) : Except DecideError Decision :=
  match inp.session with
  | none => .error (.value "SOAKING requires an active session")
  | some session =>
    if session.pendingTerminationReason.isSome then
      -- Only OFF evidence may advance a soak with a committed termination.
      match inp.event with
      | .offConfirmed atUtc | .externalActuatorOff atUtc =>
        .ok (finalizeSoakingExternal inp session atUtc)
      | .offNotConfirmed => .ok (soakingOffNotConfirmed inp session)
      | _ => .ok noOp
    else match inp.event with
      | .moistureReport observation => soakingMoisture inp session observation
      | .soakDeadlineReached | .autoEvaluate | .slotGranted =>
        soakingDeadlineOrEvaluate inp session
      | .graceDeadlineReached => soakingGrace inp session
      | .actuatorBecameUnavailable =>
        .ok (finalizeSoakingFault session "T32" .actuatorFault .actuatorUnavailable)
      | .externalActuatorOn =>
        .ok { actions := [persistState "external_interference",
                addBlocker .integrationOffUnconfirmed, executeOff true]
              session := some { session with
                pendingTerminationReason := some .externalActuatorStateChange
                lastRecheckValue := none } }
      | .stopRequested => .ok (finalizeSoakingCancel session "T35" .userStop .idle)
      | .disableRequested => .ok (finalizeSoakingCancel session "T36" .zoneDisabled .disabled)
      | .homeAssistantShutdown =>
        .ok { transitionId := some "T37"
              newState := some .soaking
              actions := [persistState "soaking_preserved"] }
      | .configEntryReload => .ok (finalizeSoakingCancel session "T38" .configReload .idle)
      | .configChangedPrepare => .ok (finalizeSoakingCancel session "T39" .configChanged .idle)
      | .startupPersistedSoaking trusted currentRunId unsafeFault =>
        startupPersistedSoakingRow inp session trusted currentRunId unsafeFault
      | .manualStartRequested _ =>
        .ok { guardResult := some (guardFailure [guardManualSafe ++ ":active_session"]) }
      | _ => .ok noOp

/-! ## FAULT -/

/-- Sensor faults resolve on a VALID fresh report, the others on an available
actuator observed OFF. -/
def faultResolved (inp : TransitionInput) (fault : FaultCode) : Bool :=
  if fault.isSensorOnly then freshValid inp else actuatorReady inp

/-- T42: auto-clear when the condition is verified and no session exists. -/
def faultAutoClearCheck (inp : TransitionInput) : Decision :=
  match inp.activeFault with
  | none => noOp
  | some fault =>
    if !fault.autoClears || inp.session.isSome then noOp
    else if !faultResolved inp fault then noOp
    else
      { transitionId := some "T42"
        newState := some .idle
        actions := [persistState "fault_cleared", emitFaultCleared fault]
        clearFault := true }

/-- T43/T44: acknowledgement by the clearing matrix and OFF proof. -/
def clearFaultRequest (inp : TransitionInput) : Decision :=
  match inp.activeFault with
  | none => noOp
  | some fault =>
    if fault.requiresReconfigure then
      { transitionId := some "T44"
        newState := some .fault
        guardResult := some (guardFailure ["fault-requires-reconfigure"]) }
    else if !faultResolved inp fault then
      { transitionId := some "T44"
        newState := some .fault
        guardResult := some (guardFailure ["fault-condition-unresolved"]) }
    else
      { transitionId := some "T43"
        newState := some .idle
        actions := [persistState "fault_cleared", emitFaultCleared fault]
        clearFault := true }

def decideFault (inp : TransitionInput) : Except DecideError Decision :=
  match inp.event with
  | .manualStartRequested requestedS => manualStart inp requestedS "T40"
  | .moistureReport _ => .ok (faultAutoClearCheck inp)
  | .externalActuatorOff atUtc =>
    if inp.session.isSome then closeOpenAccounting inp atUtc
    else if inp.externalOn then
      .ok { actions := [setExternalOn false, removeBlocker .externalFlow] }
    else .ok (faultAutoClearCheck inp)
  | .offConfirmed atUtc =>
    if inp.session.isSome then closeOpenAccounting inp atUtc else .ok noOp
  | .externalActuatorOn =>
    if inp.externalOn then .ok noOp
    else .ok { actions := [setExternalOn true, addBlocker .externalFlow] }
  | .clearFaultRequested => .ok (clearFaultRequest inp)
  | .disableRequested =>
    -- T45 retains the fault metadata.
    .ok { transitionId := some "T45"
          newState := some .disabled
          actions := [persistState "disabled", releaseSlot] }
  | .configurationInvalid _ =>
    if inp.activeFault = some .configurationInvalid then .ok noOp
    else .ok (configurationInvalidRow inp "T5")
  | _ => .ok noOp

/-- Compute the deterministic decision for one normalized event. -/
def decide (inp : TransitionInput) : Except DecideError Decision :=
  match inp.event with
  | .storeIntegrityLost => .ok (integrityLost inp)
  | .configurationInvalid true => .ok (configurationInvalidRow inp "T53")
  | _ =>
    match inp.state with
    | .idle => decideIdle inp
    | .disabled => decideDisabled inp
    | .watering => decideWatering inp
    | .soaking => decideSoaking inp
    | .fault => decideFault inp

end MoistureLoop.StateMachine
