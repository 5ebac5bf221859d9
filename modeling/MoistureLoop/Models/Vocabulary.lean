import Mathlib

/-! # Vocabulary of the water controller

The enumerations of `models.py` with the property matrix of the fault codes.
Instants and durations are exact: an instant is the number of seconds since the
epoch in UTC, so the `_require_utc` checks of the source hold by typing, and a
`datetime + timedelta(seconds=s)` is a plain sum. -/

namespace MoistureLoop

/-- An aware UTC `datetime`. -/
abbrev Instant := ℚ

/-- A duration in seconds; the source uses `int`, `float` and `timedelta` here. -/
abbrev Seconds := ℚ

abbrev Moisture := ℚ

/-- A Home Assistant local calendar day, counted from an arbitrary origin. -/
abbrev LocalDate := Int

inductive ControllerState where
  | disabled | idle | watering | soaking | fault
  deriving DecidableEq, Repr

inductive SessionMode where
  | auto | manual
  deriving DecidableEq, Repr

inductive MoistureClassification where
  | valid | stale | invalid | unavailable
  deriving DecidableEq, Repr

inductive FaultCode where
  | sensorUnavailable | sensorStale | sensorInvalid
  | actuatorUnavailable | actuatorOnTimeout | actuatorOffTimeout
  | configurationInvalid | restoredFromUnsafeState
  deriving DecidableEq, Repr

namespace FaultCode

def isSensorOnly : FaultCode → Bool
  | sensorUnavailable | sensorStale | sensorInvalid => true
  | _ => false

def allowsManual (fault : FaultCode) : Bool := fault.isSensorOnly

def autoClears : FaultCode → Bool
  | sensorUnavailable | sensorStale | sensorInvalid
  | actuatorUnavailable | actuatorOnTimeout => true
  | _ => false

def requiresUserAck : FaultCode → Bool
  | actuatorOffTimeout | restoredFromUnsafeState => true
  | _ => false

def requiresReconfigure : FaultCode → Bool
  | configurationInvalid => true
  | _ => false

/-- `_ACTUATOR_FAULTS`: the codes stored with the actuator's safety record. -/
def isActuatorFault : FaultCode → Bool
  | actuatorUnavailable | actuatorOnTimeout | actuatorOffTimeout
  | restoredFromUnsafeState => true
  | _ => false

/-- `_ZONE_FAULTS`: the codes stored with the logical zone. -/
def isZoneFault : FaultCode → Bool
  | sensorUnavailable | sensorStale | sensorInvalid | configurationInvalid => true
  | _ => false

/-- Every fault code belongs to exactly one of the two persisted owners. -/
theorem isZoneFault_eq_not_isActuatorFault (fault : FaultCode) :
    fault.isZoneFault = !fault.isActuatorFault := by
  cases fault <;> rfl

theorem isZoneFault_of_isSensorOnly {fault : FaultCode} (sensor : fault.isSensorOnly = true) :
    fault.isZoneFault = true := by
  cases fault <;> first | rfl | cases sensor

end FaultCode

/-- `SessionContext.__post_init__` admits only a sensor-only code as the
retained fault of a manual session. -/
abbrev SensorFault := { fault : FaultCode // fault.isSensorOnly = true }

inductive CompletionReason where
  | targetReached | manualComplete
  | maxCycles | maxSessionRuntime | dailyRuntimeLimit
  | userStop | zoneDisabled | externalActuatorStateChange | configReload | configChanged
  | homeAssistantShutdown
  | restartRecovery | sensorFault | actuatorFault
  deriving DecidableEq, Repr

inductive RuntimeEstimationReason where
  | none | restartFoundOn | restartFoundOffUnknownStop | offUnconfirmed
  deriving DecidableEq, Repr

inductive BlockerReason where
  | externalFlow | integrationOffUnconfirmed | actuatorNotProvenOff
  deriving DecidableEq, Repr

/-- The `StrEnum` values, which order persisted blocker tuples. -/
def BlockerReason.value : BlockerReason → String
  | externalFlow => "external_flow"
  | integrationOffUnconfirmed => "integration_off_unconfirmed"
  | actuatorNotProvenOff => "actuator_not_proven_off"

inductive RuntimeLifecycle where
  | active | deletePending | retired
  deriving DecidableEq, Repr

inductive IdentityStatus where
  | registryConfirmed | registryUnavailable | missing | conflict
  deriving DecidableEq, Repr

inductive PossibleFlowOwner where
  | integration | external
  deriving DecidableEq, Repr

inductive IdentityIncidentKind where
  | migrationUnresolved | identityMissing | identityConflict
  deriving DecidableEq, Repr

inductive ManualClampReason where
  | manualMaxDuration | maxSessionRuntime | remainingDailyBudget
  deriving DecidableEq, Repr

inductive ActuatorFinding where
  | on | off | unproven
  deriving DecidableEq, Repr

inductive TimerKind where
  | pulseEnd | manualEnd | soakEnd | grace | onConfirmTimeout
  deriving DecidableEq, Repr

end MoistureLoop
