import MoistureLoop.Controller.Apply

/-! # Commands and evidence of one controller

What the session-owner task, an OFF operation and the state callback of the actuator
do between two awaits: the final gate of an ON command and its rechecks, the
compensation of an ON command that lost its authority, the shared OFF operation with
its attempts, and the classification of an observed state. -/

open MoistureLoop.Action

namespace MoistureLoop

/-! ## Authority for an ON command -/

/-- What the entry answers to `_evaluate_on_authority` from outside the controller: the
failing configuration predicates, whether one of them requires quiescing, and the live
state of the actuator. -/
structure OnAuthority where
  failedAuthority : List String
  requiresQuiescing : Bool
  reading : ActuatorAssessment
  deriving DecidableEq, Repr

/-- `FinalOnAuthorizationResult`; the token stands for having no failed predicate. -/
structure OnAuthorization where
  failedPredicates : List String
  configurationAuthorityValid : Bool
  requiresQuiescing : Bool
  deriving DecidableEq, Repr

def OnAuthorization.authorized (authorization : OnAuthorization) : Bool :=
  authorization.failedPredicates.isEmpty

/-- `current_local_day_runtime_s`. -/
def SharedState.currentLocalDayRuntimeS (shared : SharedState) (history : Option ZoneHistory) :
    Seconds :=
  match history.bind ZoneHistory.daily with
  | none => 0
  | some day => if day.dateLocal = shared.calendar.dayOf shared.now then day.runtimeS else 0

namespace ZoneController

def autoOnFailures (controller : ZoneController) (now : Instant) (session : SessionContext)
    (dailyRuntimeS : Seconds) : List String :=
  let config := controller.config
  (if controller.observation.classification ≠ .valid ∨
      controller.observation.isFresh now config.sensorMaxAgeS = false ∨
      session.sensorFreshUntilUtc.all (fun freshUntil => decide (freshUntil ≤ now))
    then ["auto_sensor_not_fresh"] else [])
    ++ (if session.cycle < 1 ∨ config.maxCycles < session.cycle then ["cycle_limit"] else [])
    ++ (if config.maxSessionRuntimeS < session.sessionRuntimeS + config.pulseDurationS
      then ["session_budget"] else [])
    ++ (if config.maxDailyRuntimeS < dailyRuntimeS + config.pulseDurationS
      then ["daily_budget"] else [])
    ++ (if session.cycle = 1 ∧ session.sessionRuntimeS = 0 ∧
        controller.lastSessionEnd.any
          (fun lastEnd => decide (now - lastEnd < config.minSessionIntervalS))
      then ["minimum_interval"] else [])

def manualOnFailures (controller : ZoneController) (session : SessionContext)
    (dailyRuntimeS : Seconds) : List String :=
  let config := controller.config
  match session.manualEffectiveDurationS with
  | none => ["manual_duration"]
  | some effective =>
    if effective ≤ 0 then ["manual_duration"]
    else if config.manualMaxDurationS < effective ∨ config.maxSessionRuntimeS < effective ∨
        config.maxDailyRuntimeS < dailyRuntimeS + effective then ["manual_budget"]
    else []

/-- `final_on_guard_failures`. -/
def finalOnGuardFailures (controller : ZoneController) (now : Instant) (sessionId : String)
    (dailyRuntimeS : Seconds) (preDispatch : Bool) : List String :=
  (if controller.state = .watering then [] else ["state_not_watering"]) ++
  match controller.session with
  | none => ["session_mismatch"]
  | some session =>
    if session.sessionId ≠ sessionId then ["session_mismatch"]
    else
      (if controller.enabled then [] else ["disabled"])
        ++ (if session.ownerRunId = controller.runId then [] else ["run_owner_mismatch"])
        ++ (if session.configFingerprint = controller.configFingerprint then []
          else ["session_config_mismatch"])
        ++ (if session.pulseIntentAtUtc.isSome then [] else ["missing_hazard_intent"])
        ++ (if session.pendingTerminationReason.isSome then ["terminal_request_committed"]
          else [])
        ++ (if controller.offRequested then ["off_requested"] else [])
        ++ (if controller.offOperationActive then ["off_operation_active"] else [])
        ++ (if preDispatch ∧ controller.inflightOn.isSome then ["another_on_attempt_in_flight"]
          else [])
        ++ (if controller.activeFault.all (fun fault => session.mode = .manual && fault.allowsManual)
          then [] else ["blocking_fault"])
        ++ (if session.mode = .auto then controller.autoOnFailures now session dailyRuntimeS
          else controller.manualOnFailures session dailyRuntimeS)

/-- The persisted session of the history is the one to be watered, with its intent. -/
def hazardIntentVerified (controller : ZoneController) (shared : SharedState)
    (sessionId : String) : Bool :=
  ((shared.store.zoneHistories.get? controller.zoneHistoryId).bind fun history =>
      history.zoneRuntime.session).any fun persisted =>
    persisted.ownerSafetyRecordId = controller.safetyRecordId &&
      persisted.context.sessionId = sessionId && persisted.context.pulseIntentAtUtc.isSome

/-- `_evaluate_on_authority`: the configuration predicates come from the entry, the others
are read from the controller, the slot manager and the store. -/
def evaluateOnAuthority (controller : ZoneController) (shared : SharedState) (sessionId : String)
    (preDispatch : Bool) (authority : OnAuthority) : OnAuthorization :=
  let authorityFailures := authority.failedAuthority
    ++ (if shared.slots.admissionOpen then [] else ["reconciliation_admission_clear"])
    ++ (if controller.commandAuthorizationOpen then [] else ["controller_commandable"])
    ++ (if controller.hazardIntentVerified shared sessionId then []
      else ["verified_hazard_intent_matches"])
  let daily := shared.currentLocalDayRuntimeS
    (shared.store.zoneHistories.get? controller.zoneHistoryId)
  { failedPredicates := authorityFailures
      ++ (if shared.slots.owner = some controller.zoneId then [] else ["slot_owned_by_session"])
      ++ (if shared.slots.blockersEmpty then [] else ["keyed_blockers_clear"])
      ++ (if (controller.finalOnGuardFailures shared.now sessionId daily preDispatch).isEmpty then []
        else ["ordinary_runtime_guards"])
      ++ (if preDispatch ∧ ¬ (authority.reading.available ∧ authority.reading.provenOff)
        then ["actuator_available_and_proven_off"] else [])
    configurationAuthorityValid := authorityFailures.isEmpty
    requiresQuiescing := authority.requiresQuiescing || !controller.commandAuthorizationOpen }

/-- `begin_quiescing`. -/
def beginQuiescing (controller : ZoneController) : ZoneController :=
  { controller with
    quiescing := true
    runtimeEligible := false
    pendingManual := none
    timers := []
    watchdogTimer := none }

def quiesceIf (controller : ZoneController) (required : Bool) : ZoneController :=
  if required then controller.beginQuiescing else controller

/-- `update_runtime_ownership`. -/
def updateRuntimeOwnership (controller : ZoneController) (zoneHistoryId : String)
    (lifecycle : RuntimeLifecycle) : ZoneController :=
  { controller with
    zoneHistoryId := zoneHistoryId
    runtimeLifecycle := lifecycle
    quiescing := lifecycle ≠ .active
    runtimeEligible := lifecycle = .active }

/-- `_final_gate_refusal_event`. -/
def finalGateRefusalEvent (controller : ZoneController) (now : Instant)
    (authorization : OnAuthorization) : ControllerEvent :=
  if !authorization.configurationAuthorityValid then .configChangedPrepare
  else if "actuator_available_and_proven_off" ∈ authorization.failedPredicates then
    if !controller.assessment.available then .actuatorBecameUnavailable else .onConfirmTimeout
  else
    match controller.session, controller.armedWatchdog with
    | some session, armed =>
      if "ordinary_runtime_guards" ∈ authorization.failedPredicates ∧ session.mode = .auto then
        if controller.observation.classification ≠ .valid then
          .moistureReport controller.observation
        else
          match armed with
          | some token =>
            if session.sensorFreshUntilUtc.any (fun freshUntil => decide (freshUntil ≤ now)) then
              .watchdogFired token
            else .configChangedPrepare
          | none => .configChangedPrepare
      else .configChangedPrepare
    | none, _ => .configChangedPrepare

/-! ## Compensating an ON command -/

/-- `_record_possible_command_in_memory`. -/
def recordPossibleCommand (controller : ZoneController) (marker : InFlightOn) : ZoneController :=
  { controller with
    session := controller.session.map fun session =>
      if session.sessionId = marker.sessionId then
        { session with
          pulseCommandedAtUtc := session.pulseCommandedAtUtc.or (some marker.dispatchedAtUtc) }
      else session }

/-- The event `_commit_on_compensation_now` decides for a lost ON command. -/
def compensationEvent (controller : ZoneController) (now : Instant) (session : SessionContext)
    (configurationChanged serviceFailed : Bool) : ControllerEvent :=
  if configurationChanged then .configChangedPrepare
  else if serviceFailed then .onConfirmTimeout
  else
    match session.mode, controller.armedWatchdog with
    | .auto, some token =>
      if session.sensorFreshUntilUtc.any (fun freshUntil => decide (freshUntil ≤ now)) then
        .watchdogFired token
      else if controller.observation.classification ≠ .valid then
        .moistureReport controller.observation
      else .onConfirmTimeout
    | _, _ => .onConfirmTimeout

/-- The actions that `_commit_on_compensation_now` accepts; any other is a `RuntimeError`. -/
def isCompensationAction : Action → Bool
  | persistState _ | emitFaultSet _ _ | executeOff _ => true
  | _ => false

/-- The runtime of a session whose ON command is uncertain is an estimate. -/
def markEstimated (controller : ZoneController) (session : SessionContext) : ZoneController :=
  if session.runtimeEstimated then controller
  else { controller with
    session := some { session with
      runtimeEstimated := true
      runtimeEstimationReason := .offUnconfirmed } }

/-- The synchronous portion of a decision: it clears neither the session nor a fault. -/
def adoptNow (controller : ZoneController) (decision : Decision) : ZoneController :=
  let committed := { controller with
    session := decision.session.or controller.session
    state := decision.newState.getD controller.state
    activeFault := decision.fault.or controller.activeFault
    secondaryFault := decision.secondaryFault.or controller.secondaryFault }
  if controller.state = .watering ∧ committed.state ≠ .watering then
    (committed.cancelTimers [.pulseEnd, .manualEnd, .onConfirmTimeout]).cancelWatchdog
  else committed

/-- `_commit_on_compensation_now`: adopt a decision without executing its actions.  The
flag says that it raised. -/
def commitOnCompensationNow (controller : ZoneController) (shared : SharedState)
    (configurationChanged serviceFailed : Bool) : ZoneController × Bool :=
  match controller.session with
  | none => (controller, false)
  | some session =>
    let rolled := (controller.markEstimated session).rollDaily shared.calendar shared.now
    let event := controller.compensationEvent shared.now session configurationChanged serviceFailed
    match StateMachine.decide (rolled.buildInput shared event "") with
    | .error _ => (rolled, true)
    | .ok decision =>
      if decision.noOp then (rolled, false)
      else (rolled.adoptNow decision, decision.actions.any fun action => !isCompensationAction action)

end ZoneController

/-! ## The shared OFF operation -/

def OffOperation.joinable (operation : OffOperation) (provenOff : Bool) : Bool :=
  match operation.phase with
  | .done true => provenOff
  | _ => true

namespace ZoneController

/-- A fresh operation of `OFF_TOTAL_ATTEMPTS` attempts. -/
def newOffOperation (controller : ZoneController) (requestedFor : Option PulseId) :
    ZoneController :=
  let begun : OffOperation :=
    { requestedFor := requestedFor
      begunIn := controller.session.map SessionContext.pulse
      phase := .commanding (offTotalAttempts - 1) }
  { controller with
    offOperation := some controller.offOperations.length
    offError := false
    offOperations := controller.offOperations ++ [begun] }

/-- `begin_off_operation`: begin or join the shared operation. -/
def beginOffOperation (controller : ZoneController) (requestedFor : Option PulseId) :
    ZoneController :=
  if controller.currentOffOperation.any fun operation =>
      operation.joinable controller.assessment.provenOff then controller
  else controller.newOffOperation requestedFor

def setOffPhase (controller : ZoneController) (operation : Nat) (phase : OffPhase) :
    ZoneController :=
  { controller with
    offOperations := controller.offOperations.modify operation fun current =>
      { current with phase := phase } }

/-- The OFF instant of a successful attempt: that of the observed state, else now. -/
def offInstant (controller : ZoneController) (now : Instant) : Instant :=
  controller.offProvenAt.getD now

/-- `_run_off_attempts` after the OFF service returned or raised: the actuator is read
again, and without proof the confirmation timeout starts. -/
def offServiceReturned (controller : ZoneController) (now : Instant) (operation left : Nat)
    (reading : ActuatorAssessment) : ZoneController :=
  let read := { controller with assessment := reading }
  if reading.provenOff || read.offProven then
    read.setOffPhase operation (.settling (some (read.offInstant now)))
  else read.setOffPhase operation (.awaitingProof left)

/-- `_wait_off_proof` returned, on proof or on its timeout. -/
def offProofEnded (controller : ZoneController) (now : Instant) (operation left : Nat) :
    ZoneController :=
  if controller.offProven || controller.assessment.provenOff then
    controller.setOffPhase operation (.settling (some (controller.offInstant now)))
  else
    controller.setOffPhase operation
      (match left with
        | 0 => .settling none
        | left + 1 => .commanding left)

/-! ## Observed states of the actuator -/

/-- `_on_actuator_event`: the synchronous state callback.  `ownContext` says that the
state carries the context of the ON command in flight. -/
def onActuatorEvent (controller : ZoneController) (now : Instant)
    (assessment : ActuatorAssessment) (terminalOn ownContext : Bool) : ZoneController :=
  { controller with
    assessment := assessment
    offProven := assessment.provenOff
    offProvenAt := if assessment.provenOff then some now else controller.offProvenAt
    inflightOn := controller.inflightOn.map fun marker =>
      if terminalOn && ownContext then { marker with observedOnAtUtc := some now } else marker
    actuatorChanges := controller.actuatorChanges ++
      [⟨controller.assessment, assessment, terminalOn, now⟩] }

/-- What `_async_actuator_change` does with a queued change. -/
inductive ChangeHandling where
  | ignored
  | decided (event : ControllerEvent)
  | provesOff
  deriving DecidableEq, Repr

/-- `_async_actuator_change` up to its first await. -/
def handleChange (controller : ZoneController) (change : ActuatorChange) : ChangeHandling :=
  if !change.assessment.available then
    if controller.state = .watering ∨ controller.state = .soaking then
      .decided .actuatorBecameUnavailable
    else .ignored
  else if change.assessment.observedOn then
    if controller.inflightOn.isSome then .ignored
    else
      match controller.state, controller.session with
      | .watering, some session =>
        if change.terminalOn ∧ session.pulseCommandedAtUtc.isSome ∧
            session.pulseConfirmedAtUtc = none ∧ session.pendingTerminationReason = none ∧
            controller.offOperationActive = false then
          .decided (.onConfirmed change.observedAt)
        else .ignored
      | _, _ => .decided .externalActuatorOn
  else if change.assessment.provenOff then .provesOff
  else .ignored

/-- `_async_actuator_change` after the not-proven-OFF key is gone: only a transition to
OFF that no OFF operation and no ON command in flight consumes is evidence. -/
def handleProvenOff (controller : ZoneController) (change : ActuatorChange)
    (offOperationActive : Bool) : ChangeHandling :=
  if change.previous.provenOff ∨ offOperationActive ∨ controller.inflightOn.isSome then .ignored
  else .decided (.externalActuatorOff change.observedAt)

end ZoneController

end MoistureLoop
