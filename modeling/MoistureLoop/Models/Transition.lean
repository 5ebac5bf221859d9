import MoistureLoop.Models.Session

/-! # Events, actions, and the input and result of one decision -/

namespace MoistureLoop

/-- Normalized controller events. A requested manual duration that is not a
finite float is `none`; every finite one is its exact value. -/
inductive ControllerEvent where
  | autoEvaluate
  | manualStartRequested (requestedDurationS : Option Seconds)
  | stopRequested
  | disableRequested
  | enableRequested
  | clearFaultRequested
  | pulseDeadlineReached
  | manualDeadlineReached
  | soakDeadlineReached
  | graceDeadlineReached
  | watchdogFired (token : WatchdogToken)
  | moistureReport (observation : MoistureObservation)
  | onConfirmed (atUtc : Instant)
  | onConfirmTimeout
  | offConfirmed (atUtc : Instant)
  | offNotConfirmed
  | actuatorBecameUnavailable
  | externalActuatorOn
  | externalActuatorOff (atUtc : Instant)
  | homeAssistantShutdown
  | configEntryReload
  | configChangedPrepare
  | configurationInvalid (atSetup : Bool)
  | storeIntegrityLost
  | startupPersistedWatering (finding : ActuatorFinding)
  | startupPersistedSoaking (trusted : Bool) (currentRunId : Option String)
      (unsafeFault : Option FaultCode)
  | slotGranted
  deriving DecidableEq, Repr

/-- Requested side effects, executed by the controller in list order. -/
inductive Action where
  | persistState (tag : String)
  | turnOn
  | executeOff (defensive : Bool)
  | armTimer (kind : TimerKind) (atUtc : Instant)
  | armWatchdog (token : WatchdogToken)
  | requestSlot
  | releaseSlot
  | requeueSlotTail
  | addBlocker (reason : BlockerReason)
  | removeBlocker (reason : BlockerReason)
  | setExternalOn (value : Bool)
  | emitSessionStarted
  | emitSessionFinished
  | emitFaultSet (fault : FaultCode) (replaces : Option FaultCode)
  | emitFaultCleared (fault : FaultCode)
  | scheduleEvaluation
  deriving DecidableEq, Repr

/-- Externally supplied identity for a session the decision may create. -/
structure SessionIdentity where
  sessionId : String
  ownerRunId : String
  configFingerprint : String
  deriving DecidableEq, Repr

/-- Complete normalized input of one pure decision. -/
structure TransitionInput where
  nowUtc : Instant
  config : ZoneConfig
  state : ControllerState
  enabled : Bool
  session : Option SessionContext
  activeFault : Option FaultCode
  secondaryFault : Option FaultCode
  observation : MoistureObservation
  dailyRuntimeS : Seconds
  lastSessionEndUtc : Option Instant
  actuator : ActuatorAssessment
  resource : ResourceAssessment
  armedWatchdog : Option WatchdogToken
  event : ControllerEvent
  externalOn : Bool := false
  newSessionIdentity : Option SessionIdentity := none
  deriving DecidableEq, Repr

/-- Pure transition result: requested effects, never performed ones. -/
structure Decision where
  transitionId : Option String := none
  newState : Option ControllerState := none
  actions : List Action := []
  reason : Option CompletionReason := none
  fault : Option FaultCode := none
  secondaryFault : Option FaultCode := none
  clearFault : Bool := false
  session : Option SessionContext := none
  clearSession : Bool := false
  finalSession : Option SessionContext := none
  guardResult : Option GuardResult := none
  noOp : Bool := false
  deriving DecidableEq, Repr

/-- `Decision.__post_init__` together with that of its guard result. -/
structure Decision.WellFormed (decision : Decision) : Prop where
  noOp : decision.noOp = true → decision.newState = none ∧ decision.actions = []
  session : decision.session.isSome → decision.clearSession = false
  finalSession : decision.finalSession.isSome → decision.clearSession = true
  guardResult : ∀ result, decision.guardResult = some result →
    (result.passed = true ↔ result.failedGuards = [])

/-- How a pure decision can raise: a failing `assert`, an explicit
`ValueError`, or a missing key of a row table. -/
inductive DecideError where
  | assertion | value (message : String) | key
  deriving DecidableEq, Repr

end MoistureLoop
