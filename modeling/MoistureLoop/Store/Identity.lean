import MoistureLoop.Foundations.Checked
import MoistureLoop.Models.Session

/-! # Entity identities and the applied configuration shadow

The identity dataclasses of `models.py`.  `guards` lists the checks of a
`__post_init__` in source order with their messages, `Valid` says that none is
violated. -/

namespace MoistureLoop

/-- The exceptions that store operations and the planner can raise. -/
inductive PyError where
  | storeWriteVerification (message : String)
  | storeNotLoaded (message : String)
  | value (message : String)
  | key
  deriving DecidableEq, Repr

/-- `_entity_domain`: the part before the first dot of a complete entity ID. -/
def entityDomain (entityId : String) : String :=
  let domain := entityId.toList.takeWhile (· ≠ '.')
  let object := (entityId.toList.dropWhile (· ≠ '.')).tail
  if domain = [] ∨ object = [] then "" else String.ofList domain

def sensorDomain : String := "sensor"
def switchDomain : String := "switch"
def valveDomain : String := "valve"

/-! ## Zone configuration bounds -/

/-- `ZoneConfig.validation_errors`: every violated bound. -/
def ZoneConfig.validationErrors (config : ZoneConfig) : List String :=
  (if 1 ≤ config.name.length ∧ config.name.length ≤ 64 then []
    else ["name must be 1-64 characters"])
    ++ (if entityDomain config.moistureSensor = sensorDomain then []
      else ["moisture_sensor must be a sensor entity ID"])
    ++ (if entityDomain config.actuator = switchDomain ∨ entityDomain config.actuator = valveDomain
      then [] else ["actuator must be a switch or valve entity ID"])
    ++ (if 1 ≤ config.startThreshold ∧ config.startThreshold ≤ 99 then []
      else ["start_threshold must be within 1-99"])
    ++ (if 2 ≤ config.targetThreshold ∧ config.targetThreshold ≤ 100 then []
      else ["target_threshold must be within 2-100"])
    ++ (if config.startThreshold < config.targetThreshold then []
      else ["start_threshold must be strictly less than target_threshold"])
    ++ (if 30 ≤ config.pulseDurationS ∧ config.pulseDurationS ≤ 3600 then []
      else ["pulse_duration must be within 30 s-60 min"])
    ++ (if 60 ≤ config.soakDurationS ∧ config.soakDurationS ≤ 14400 then []
      else ["soak_duration must be within 1 min-4 h"])
    ++ (if 1 ≤ config.maxCycles ∧ config.maxCycles ≤ 20 then []
      else ["max_cycles must be within 1-20"])
    ++ (if config.pulseDurationS ≤ config.maxSessionRuntimeS ∧ config.maxSessionRuntimeS ≤ 14400
      then [] else ["max_session_runtime must be within pulse duration-4 h"])
    ++ (if config.pulseDurationS ≤ config.maxDailyRuntimeS ∧ config.maxDailyRuntimeS ≤ 43200
      then [] else ["max_daily_runtime must be within pulse duration-12 h"])
    ++ (if 900 ≤ config.minSessionIntervalS ∧ config.minSessionIntervalS ≤ 604800 then []
      else ["min_session_interval must be within 15 min-7 d"])
    ++ (if 300 ≤ config.sensorMaxAgeS ∧ config.sensorMaxAgeS ≤ 86400 then []
      else ["sensor_max_age must be within 5 min-24 h"])
    ++ (if 5 ≤ config.actuatorConfirmTimeoutS ∧ config.actuatorConfirmTimeoutS ≤ 300 then []
      else ["actuator_confirm_timeout must be within 5 s-5 min"])
    ++ (if 60 ≤ config.manualMaxDurationS ∧ config.manualMaxDurationS ≤ 7200 then []
      else ["manual_max_duration must be within 1 min-2 h"])

/-- `NormalizedZoneSettings`: the configuration without its two entity IDs. -/
structure NormalizedZoneSettings where
  name : String
  startThreshold : Moisture
  targetThreshold : Moisture
  pulseDurationS : Seconds
  soakDurationS : Seconds
  maxCycles : Nat
  maxSessionRuntimeS : Seconds
  maxDailyRuntimeS : Seconds
  minSessionIntervalS : Seconds
  sensorMaxAgeS : Seconds
  actuatorConfirmTimeoutS : Seconds
  manualMaxDurationS : Seconds
  deriving DecidableEq, Repr

namespace NormalizedZoneSettings

/-- The settings of a configuration; `from_config` validates it first. -/
def ofConfig (config : ZoneConfig) : NormalizedZoneSettings where
  name := config.name
  startThreshold := config.startThreshold
  targetThreshold := config.targetThreshold
  pulseDurationS := config.pulseDurationS
  soakDurationS := config.soakDurationS
  maxCycles := config.maxCycles
  maxSessionRuntimeS := config.maxSessionRuntimeS
  maxDailyRuntimeS := config.maxDailyRuntimeS
  minSessionIntervalS := config.minSessionIntervalS
  sensorMaxAgeS := config.sensorMaxAgeS
  actuatorConfirmTimeoutS := config.actuatorConfirmTimeoutS
  manualMaxDurationS := config.manualMaxDurationS

def toConfig (settings : NormalizedZoneSettings) (sensorEntityId actuatorEntityId : String) :
    ZoneConfig where
  name := settings.name
  moistureSensor := sensorEntityId
  actuator := actuatorEntityId
  startThreshold := settings.startThreshold
  targetThreshold := settings.targetThreshold
  pulseDurationS := settings.pulseDurationS
  soakDurationS := settings.soakDurationS
  maxCycles := settings.maxCycles
  maxSessionRuntimeS := settings.maxSessionRuntimeS
  maxDailyRuntimeS := settings.maxDailyRuntimeS
  minSessionIntervalS := settings.minSessionIntervalS
  sensorMaxAgeS := settings.sensorMaxAgeS
  actuatorConfirmTimeoutS := settings.actuatorConfirmTimeoutS
  manualMaxDurationS := settings.manualMaxDurationS

/-- Settings taken from a configuration describe it again. -/
theorem toConfig_ofConfig (config : ZoneConfig) :
    (ofConfig config).toConfig config.moistureSensor config.actuator = config := rfl

end NormalizedZoneSettings

/-! ## Identities -/

/-- Current logical-zone sensor identity; never actuator authority. -/
structure SensorIdentity where
  registryEntryId : Option String
  lastKnownEntityId : Option String
  deriving DecidableEq, Repr

def SensorIdentity.guards (identity : SensorIdentity) : List (Bool × String) :=
  [(identity.registryEntryId = some "" || identity.lastKnownEntityId = some "",
      "sensor identity values must be non-empty or null"),
   (identity.lastKnownEntityId.any fun entity => entityDomain entity ≠ sensorDomain,
      "sensor last_known_entity_id must use the sensor domain")]

structure AppliedEntityIdentity where
  registryEntryId : Option String
  lastKnownEntityId : String
  domain : String
  deriving DecidableEq, Repr

def AppliedEntityIdentity.guards (identity : AppliedEntityIdentity) : List (Bool × String) :=
  [(identity.lastKnownEntityId = "" || entityDomain identity.lastKnownEntityId ≠ identity.domain,
      "applied entity identity/domain mismatch"),
   (identity.registryEntryId = some "", "registry_entry_id must be non-empty or null")]

def offServiceOf (domain : Option String) : Option String :=
  if domain = some switchDomain then some "switch.turn_off"
  else if domain = some valveDomain then some "valve.close_valve"
  else none

/-- Durable actuator safety identity and retained OFF metadata. -/
structure ActuatorIdentity where
  registryEntryId : Option String
  lastKnownEntityId : Option String
  domain : Option String
  identityStatus : IdentityStatus
  offService : Option String
  confirmTimeoutS : Option Seconds
  deriving DecidableEq, Repr

/-- MISSING or CONFLICT: no current entity is known to be this actuator. -/
def IdentityStatus.unresolved : IdentityStatus → Bool
  | .missing | .conflict => true
  | .registryConfirmed | .registryUnavailable => false

def ActuatorIdentity.guards (identity : ActuatorIdentity) : List (Bool × String) :=
  [(identity.registryEntryId = some "" || identity.lastKnownEntityId = some "",
      "actuator identity strings must be non-empty or null"),
   (identity.domain ≠ none && identity.domain ≠ some switchDomain
      && identity.domain ≠ some valveDomain,
      "actuator identity domain must be switch, valve, or null"),
   (identity.lastKnownEntityId.any fun entity => some (entityDomain entity) ≠ identity.domain,
      "actuator entity ID/domain mismatch"),
   (identity.offService ≠ offServiceOf identity.domain,
      "actuator OFF service/domain mismatch"),
   (identity.confirmTimeoutS.any fun timeout => decide (timeout ≤ 0),
      "confirm_timeout_s must be positive or null"),
   (!identity.identityStatus.unresolved && (identity.lastKnownEntityId.isNone
      || identity.domain.isNone || identity.confirmTimeoutS.isNone),
      "resolved actuator identity requires entity/domain/timeout metadata"),
   (identity.identityStatus = .registryConfirmed && identity.registryEntryId.isNone,
      "registry_confirmed identity requires registry_entry_id"),
   (identity.identityStatus = .registryUnavailable && identity.registryEntryId.isSome,
      "registry_unavailable identity cannot carry registry_entry_id")]

structure AppliedConfigurationShadow where
  subentryId : String
  configFingerprint : String
  entrySnapshotFingerprint : String
  appliedGeneration : Nat
  normalizedSettings : NormalizedZoneSettings
  sensorIdentity : AppliedEntityIdentity
  actuatorIdentity : AppliedEntityIdentity
  deriving DecidableEq, Repr

/-- The guards of the shadow after those of its two identities. -/
def AppliedConfigurationShadow.guards (shadow : AppliedConfigurationShadow) :
    List (Bool × String) :=
  let errors := (shadow.normalizedSettings.toConfig shadow.sensorIdentity.lastKnownEntityId
    shadow.actuatorIdentity.lastKnownEntityId).validationErrors
  shadow.sensorIdentity.guards ++ shadow.actuatorIdentity.guards ++
  [(shadow.subentryId = "" || shadow.configFingerprint = ""
      || shadow.entrySnapshotFingerprint = "",
      "applied shadow identifiers/fingerprints must be non-empty"),
   (shadow.sensorIdentity.domain ≠ sensorDomain,
      "applied sensor identity must use sensor domain"),
   (shadow.actuatorIdentity.domain ≠ switchDomain && shadow.actuatorIdentity.domain ≠ valveDomain,
      "applied actuator identity must use switch or valve domain"),
   (errors ≠ [], String.intercalate "; " errors)]

/-- Durable identity evidence for later exact-record reconciliation. -/
structure IdentityIncident where
  kind : IdentityIncidentKind
  detail : String
  deriving DecidableEq, Repr

def IdentityIncident.guards (incident : IdentityIncident) : List (Bool × String) :=
  [(incident.detail = "", "identity incident detail must be non-empty")]

/-- Operator proof that a deleted actuator identity is physically OFF. -/
structure RemovedActuatorAcknowledgement where
  acknowledgedAtUtc : Instant
  registryEntryId : String
  lastKnownEntityId : Option String
  deriving DecidableEq, Repr

def RemovedActuatorAcknowledgement.guards (ack : RemovedActuatorAcknowledgement) :
    List (Bool × String) :=
  [(ack.registryEntryId = "",
      "removed-actuator acknowledgement requires a registry_entry_id")]

/-- The proof covers exactly the durable identity it was given for. -/
def RemovedActuatorAcknowledgement.covers (ack : RemovedActuatorAcknowledgement)
    (identity : ActuatorIdentity) : Bool :=
  identity.registryEntryId = some ack.registryEntryId

end MoistureLoop
