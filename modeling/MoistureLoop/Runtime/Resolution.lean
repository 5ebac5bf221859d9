import MoistureLoop.Foundations.Dict
import MoistureLoop.Runtime.Snapshot
import MoistureLoop.Runtime.Retained

/-! # Building a snapshot

`_build_immutable_snapshot` resolves every configured reference in one Entity Registry.  A
durable ID that the Store keeps for the same reference is resolved first: an entry under that
ID is the same entity, whatever its entity ID is now. -/

namespace MoistureLoop

/-- What the integration reads of a `RegistryEntry`. -/
structure RegistryEntry where
  id : String
  entityId : String
  deriving DecidableEq, Repr

/-- `EntityRegistry.async_get`, by ID or by entity ID. -/
abbrev RegistryLookup := String → Option RegistryEntry

/-- The registry is an index: an entry is found under its entity ID, which is not empty. -/
def RegistryLookup.Indexed (lookup : RegistryLookup) : Prop :=
  ∀ key entry, lookup key = some entry →
    lookup entry.entityId = some entry ∧ entry.entityId ≠ ""

/-- A configured reference and the durable ID kept for it. -/
structure DurableHint where
  reference : String
  registryEntryId : Option String
  deriving DecidableEq, Repr

structure ResolvedEntity where
  registryEntryId : Option String
  currentEntityId : String
  ambiguous : Bool
  deriving DecidableEq, Repr

/-- The entry of the durable ID, when the reference is still the one it was kept for. -/
def DurableHint.renamed (hint : DurableHint) (lookup : RegistryLookup)
    (configuredEntityId : String) : Option (String × RegistryEntry) := do
  let durable ← hint.registryEntryId
  let entry ← lookup durable
  if hint.reference = configuredEntityId ∧
      entityPrefix entry.entityId = entityPrefix configuredEntityId then some (durable, entry)
  else none

/-- `_resolve_configured_entity`. -/
def resolveConfiguredEntity (lookup : RegistryLookup) (configuredEntityId : String)
    (hint : Option DurableHint) : ResolvedEntity :=
  match hint.bind fun hint => hint.renamed lookup configuredEntityId with
  | some (durable, entry) =>
    -- Another identity under the configured text competes with the durable one.
    { registryEntryId := some entry.id
      currentEntityId := entry.entityId
      ambiguous := (lookup configuredEntityId).any fun competing => competing.id ≠ durable }
  | none =>
    match lookup configuredEntityId with
    | some entry => ⟨some entry.id, entry.entityId, false⟩
    | none => ⟨none, configuredEntityId, false⟩

/-- The durable identities of a subentry's sensor and actuator. -/
structure ZoneHints where
  sensor : DurableHint
  actuator : DurableHint
  deriving DecidableEq, Repr

/-- `_durable_identity_hints`: the last current record of the subentry in the order of the map
that has a shadow. -/
def durableIdentityHints (data : StoreFields) (subentryId : String) : Option ZoneHints :=
  let hinting := data.safetyRecords.values.filter fun record =>
    record.activeSubentryId = some subentryId && record.appliedConfig.isSome
  hinting.getLast?.bind fun record => record.appliedConfig.map fun shadow =>
    { sensor :=
        ⟨shadow.sensorIdentity.lastKnownEntityId,
          (data.zoneHistories.get? record.zoneHistoryId).bind fun history =>
            history.zoneRuntime.sensorIdentity.registryEntryId⟩
      actuator :=
        ⟨shadow.actuatorIdentity.lastKnownEntityId, record.actuatorIdentity.registryEntryId⟩ }

/-- `_build_immutable_snapshot`, for one zone subentry.  The fingerprint is a hash of the
normalized configuration and the two identities. -/
def immutableZoneSnapshot (lookup : RegistryLookup)
    (fingerprint : String → ZoneConfig → AppliedEntityIdentity → AppliedEntityIdentity → String)
    (hints : Option ZoneHints) (subentryId : String) (config : ZoneConfig) :
    ImmutableZoneSnapshot :=
  let sensor := resolveConfiguredEntity lookup config.moistureSensor (hints.map ZoneHints.sensor)
  let actuator := resolveConfiguredEntity lookup config.actuator (hints.map ZoneHints.actuator)
  let sensorIdentity : AppliedEntityIdentity :=
    ⟨sensor.registryEntryId, config.moistureSensor, entityPrefix config.moistureSensor⟩
  let actuatorIdentity : AppliedEntityIdentity :=
    ⟨actuator.registryEntryId, config.actuator, entityPrefix config.actuator⟩
  { subentryId
    config
    sensorIdentity
    actuatorIdentity
    configFingerprint := fingerprint subentryId config sensorIdentity actuatorIdentity
    currentSensorEntityId := some sensor.currentEntityId
    currentActuatorEntityId := some actuator.currentEntityId
    identityConflictDetail :=
      if actuator.ambiguous then
        some ("configured actuator " ++ config.actuator ++ " for " ++ subentryId ++
          " now resolves to a different Entity Registry identity than the durable identity" ++
          " already held")
      else none }

def ImmutableEntrySnapshot.BuiltIn (snapshot : ImmutableEntrySnapshot) (lookup : RegistryLookup) :
    Prop :=
  ∀ zone ∈ snapshot.zones, ∃ fingerprint hints config,
    zone = immutableZoneSnapshot lookup fingerprint hints zone.subentryId config

/-- Two zones whose actuators are one entity now have one Registry identity. -/
def ImmutableEntrySnapshot.ActuatorsResolved (snapshot : ImmutableEntrySnapshot) : Prop :=
  ∀ zone ∈ snapshot.zones, ∀ other ∈ snapshot.zones,
    zone.currentActuator = other.currentActuator →
    zone.actuatorIdentity.registryEntryId = other.actuatorIdentity.registryEntryId

theorem entityOr_self (entity : String) : ImmutableZoneSnapshot.entityOr (some entity) entity =
    entity := by
  simp [ImmutableZoneSnapshot.entityOr]

/-- A reference resolves to an entry of the registry, or to its own text without one. -/
theorem resolveConfiguredEntity_cases {lookup : RegistryLookup} (indexed : lookup.Indexed)
    (configuredEntityId : String) (hint : Option DurableHint) :
    (∃ entry, lookup entry.entityId = some entry ∧ entry.entityId ≠ "" ∧
      (resolveConfiguredEntity lookup configuredEntityId hint).registryEntryId = some entry.id ∧
      (resolveConfiguredEntity lookup configuredEntityId hint).currentEntityId =
        entry.entityId) ∨
    (lookup configuredEntityId = none ∧
      (resolveConfiguredEntity lookup configuredEntityId hint).registryEntryId = none ∧
      (resolveConfiguredEntity lookup configuredEntityId hint).currentEntityId =
        configuredEntityId) := by
  unfold resolveConfiguredEntity
  split
  · rename_i durable entry renamed
    obtain ⟨hint, -, renamed⟩ := Option.bind_eq_some_iff.mp renamed
    simp only [DurableHint.renamed, Option.bind_eq_bind, Option.bind_eq_some_iff] at renamed
    obtain ⟨durable', -, entry', found, chosen⟩ := renamed
    obtain ⟨-, same⟩ := Option.ite_none_right_eq_some.mp chosen
    obtain ⟨rfl, rfl⟩ := Prod.mk.inj (Option.some.inj same)
    obtain ⟨found', filled⟩ := indexed _ _ found
    exact .inl ⟨entry', found', filled, rfl, rfl⟩
  · split
    · rename_i entry found
      obtain ⟨found', filled⟩ := indexed _ _ found
      exact .inl ⟨entry, found', filled, rfl, rfl⟩
    · rename_i absent
      exact .inr ⟨absent, rfl, rfl⟩

/-- The actuator of a built zone is an entry of the registry under its current entity ID, or
unknown to the registry. -/
theorem currentActuator_of_build {lookup : RegistryLookup} (indexed : lookup.Indexed)
    {zone : ImmutableZoneSnapshot}
    {fingerprint : String → ZoneConfig → AppliedEntityIdentity → AppliedEntityIdentity → String}
    {hints : Option ZoneHints} {config : ZoneConfig}
    (built : zone = immutableZoneSnapshot lookup fingerprint hints zone.subentryId config) :
    zone.actuatorIdentity.registryEntryId =
      (lookup zone.currentActuator).map RegistryEntry.id := by
  rw [built]
  simp only [immutableZoneSnapshot, ImmutableZoneSnapshot.currentActuator]
  obtain ⟨entry, found, filled, registered, current⟩ | ⟨absent, registered, current⟩ :=
    resolveConfiguredEntity_cases indexed config.actuator (hints.map ZoneHints.actuator)
  · rw [registered, current]
    simp [ImmutableZoneSnapshot.entityOr, filled, found]
  · rw [registered, current, entityOr_self, absent]
    rfl

/-- A snapshot that was built in one registry resolves each entity to one identity. -/
theorem ImmutableEntrySnapshot.BuiltIn.actuatorsResolved {snapshot : ImmutableEntrySnapshot}
    {lookup : RegistryLookup} (indexed : lookup.Indexed) (built : snapshot.BuiltIn lookup) :
    snapshot.ActuatorsResolved := by
  intro zone member other member' same
  obtain ⟨_, _, _, here⟩ := built zone member
  obtain ⟨_, _, _, there⟩ := built other member'
  rw [currentActuator_of_build indexed here, currentActuator_of_build indexed there, same]

end MoistureLoop
