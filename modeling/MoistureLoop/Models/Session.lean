import MoistureLoop.Models.Vocabulary

/-! # Observations, configuration and the session context -/

namespace MoistureLoop

/-- Normalized sensor input. Only the report time counts as evidence; `age_s`
is presentation data that no decision reads. -/
structure MoistureObservation where
  value : Option Moisture
  classification : MoistureClassification
  reportedAtUtc : Option Instant
  deriving DecidableEq, Repr

/-- Fresh means `reported_at_utc >= now - max_age`; equality is fresh. -/
def MoistureObservation.isFresh (observation : MoistureObservation) (now : Instant)
    (sensorMaxAge : Seconds) : Bool :=
  match observation.reportedAtUtc with
  | none => false
  | some reportedAt => decide (now - sensorMaxAge ≤ reportedAt)

/-- Freshness token: a queued callback matches only when both fields agree. -/
structure WatchdogToken where
  generation : Nat
  deadlineUtc : Instant
  deriving DecidableEq, Repr

structure ZoneConfig where
  name : String
  moistureSensor : String
  actuator : String
  startThreshold : Moisture
  targetThreshold : Moisture
  pulseDurationS : Seconds
  soakDurationS : Seconds
  maxCycles : Nat
  maxSessionRuntimeS : Seconds
  maxDailyRuntimeS : Seconds
  minSessionIntervalS : Seconds
  sensorMaxAgeS : Seconds
  actuatorConfirmTimeoutS : Seconds
  manualMaxDurationS : Seconds
  deriving DecidableEq, Repr

/-- Active-session context. The four live-only fields at the end are not
persisted (`session_to_dict`). -/
structure SessionContext where
  sessionId : String
  ownerRunId : String
  configFingerprint : String
  mode : SessionMode
  startedAtUtc : Instant
  cycle : Nat := 0
  sessionRuntimeS : Seconds := 0
  runtimeEstimated : Bool := false
  runtimeEstimationReason : RuntimeEstimationReason := .none
  pulseIntentAtUtc : Option Instant := none
  pulseCommandedAtUtc : Option Instant := none
  pulseConfirmedAtUtc : Option Instant := none
  pulseEndsAtUtc : Option Instant := none
  offConfirmedAtUtc : Option Instant := none
  soakEndsAtUtc : Option Instant := none
  recheckNotBeforeUtc : Option Instant := none
  recheckGraceDeadlineAtUtc : Option Instant := none
  manualRequestedDurationS : Option Seconds := none
  manualEffectiveDurationS : Option Seconds := none
  manualClampReasons : List ManualClampReason := []
  moistureAtStart : Option Moisture := none
  retainedSensorFault : Option SensorFault := none
  sensorFreshUntilUtc : Option Instant := none
  sensorFreshnessWatchdogGeneration : Nat := 0
  lastRecheckValue : Option Moisture := none
  pendingTerminationReason : Option CompletionReason := none
  deriving DecidableEq, Repr

/-- The pulse of the session may still be flowing: its intent is recorded and
no OFF evidence for it has been accepted. -/
def SessionContext.openPulse (session : SessionContext) : Bool :=
  session.pulseIntentAtUtc.isSome && session.offConfirmedAtUtc.isNone

/-- One pulse: the session and its cycle.  A manual session has the one cycle 0. -/
structure PulseId where
  sessionId : String
  cycle : Nat
  deriving DecidableEq, Repr

def SessionContext.pulse (session : SessionContext) : PulseId := ⟨session.sessionId, session.cycle⟩

structure SessionSummary where
  mode : SessionMode
  reason : CompletionReason
  runtimeS : Seconds
  runtimeEstimated : Bool
  runtimeEstimationReason : RuntimeEstimationReason
  requestedDurationS : Option Seconds
  effectiveDurationS : Option Seconds
  clampReasons : List ManualClampReason
  cycles : Nat
  moistureBefore : Option Moisture
  moistureAfter : Option Moisture
  startedAtUtc : Instant
  endedAtUtc : Instant
  deriving DecidableEq, Repr

/-- Current local-day runtime counter of a controller. -/
structure DailyRuntime where
  dateLocal : LocalDate
  runtimeS : Seconds
  deriving DecidableEq, Repr

structure GuardResult where
  passed : Bool
  failedGuards : List String := []
  deriving DecidableEq, Repr

/-- Conservative actuator view: `proven_off` only on terminal proof. The last
field is the check of `__post_init__`. -/
structure ActuatorAssessment where
  available : Bool
  provenOff : Bool
  observedOn : Bool
  consistent : (provenOff && observedOn) = false := by decide
  deriving DecidableEq, Repr

/-- Water-resource view supplied by the slot manager. -/
structure ResourceAssessment where
  slotGranted : Bool
  blockersEmpty : Bool
  deriving DecidableEq, Repr

/-! ## A sample configuration -/

/-- A configuration within every bound. -/
def sampleConfig (sensor actuator : String) : ZoneConfig where
  name := "bed"
  moistureSensor := sensor
  actuator := actuator
  startThreshold := 30
  targetThreshold := 60
  pulseDurationS := 60
  soakDurationS := 600
  maxCycles := 3
  maxSessionRuntimeS := 600
  maxDailyRuntimeS := 1200
  minSessionIntervalS := 900
  sensorMaxAgeS := 3600
  actuatorConfirmTimeoutS := 30
  manualMaxDurationS := 300

end MoistureLoop
