import MoistureLoop.Store.Identity

/-! # Immutable snapshots of the configuration

What `entry.subentries` says at one moment: for each zone its configured references, the
Registry identities they resolve to, and the entity IDs these are addressable at now.  The
two fingerprints are hashes of this data; the model carries them as data. -/

namespace MoistureLoop

/-- `ImmutableZoneSnapshot`. -/
structure ImmutableZoneSnapshot where
  subentryId : String
  config : ZoneConfig
  sensorIdentity : AppliedEntityIdentity
  actuatorIdentity : AppliedEntityIdentity
  configFingerprint : String
  currentSensorEntityId : Option String := none
  currentActuatorEntityId : Option String := none
  identityConflictDetail : Option String := none
  deriving DecidableEq, Repr

namespace ImmutableZoneSnapshot

/-- `x or y` of two entity IDs: an empty ID counts as absent. -/
def entityOr (current : Option String) (configured : String) : String :=
  match current with
  | some entity => if entity = "" then configured else entity
  | none => configured

def currentSensor (zone : ImmutableZoneSnapshot) : String :=
  entityOr zone.currentSensorEntityId zone.sensorIdentity.lastKnownEntityId

def currentActuator (zone : ImmutableZoneSnapshot) : String :=
  entityOr zone.currentActuatorEntityId zone.actuatorIdentity.lastKnownEntityId

/-- `current_config`: the configuration bound to the current entity IDs. -/
def currentConfig (zone : ImmutableZoneSnapshot) : ZoneConfig :=
  if zone.currentSensor ≠ zone.sensorIdentity.lastKnownEntityId ∨
      zone.currentActuator ≠ zone.actuatorIdentity.lastKnownEntityId then
    { zone.config with moistureSensor := zone.currentSensor, actuator := zone.currentActuator }
  else zone.config

/-- `applied_shadow`. -/
def appliedShadow (zone : ImmutableZoneSnapshot) (entrySnapshotFingerprint : String)
    (appliedGeneration : Nat) : AppliedConfigurationShadow where
  subentryId := zone.subentryId
  configFingerprint := zone.configFingerprint
  entrySnapshotFingerprint := entrySnapshotFingerprint
  appliedGeneration := appliedGeneration
  normalizedSettings := .ofConfig zone.config
  sensorIdentity := zone.sensorIdentity
  actuatorIdentity := zone.actuatorIdentity

end ImmutableZoneSnapshot

/-- `ImmutableEntrySnapshot`: the zones in the order of their subentries. -/
structure ImmutableEntrySnapshot where
  observedGeneration : Nat
  entrySnapshotFingerprint : String
  zones : List ImmutableZoneSnapshot
  sorted : (zones.map ImmutableZoneSnapshot.subentryId).Pairwise (· < ·)
  deriving DecidableEq

/-- `by_subentry_id().get(...)`. -/
def ImmutableEntrySnapshot.bySubentryId (snapshot : ImmutableEntrySnapshot)
    (subentryId : String) : Option ImmutableZoneSnapshot :=
  snapshot.zones.find? fun zone => zone.subentryId = subentryId

end MoistureLoop
