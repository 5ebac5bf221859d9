import MoistureLoop.Foundations.Guarded
import MoistureLoop.Runtime.PlanSteps

/-! # The life of one safety record

Everything the program does to one record, as events: the steps of a reconciliation, the
writes of a controller and of the slot manager, and the two acknowledgements.  An event
that fails a check has no successor. -/

namespace MoistureLoop

open Checked (Holds)

inductive RecordEvent where
  /-- The record loses its subentry. -/
  | displaced (subentryId : String)
  /-- A retained record is reconciled with the evidence about its actuator. -/
  | reconciled (registry : EntityRegistry) (history : ZoneHistory)
      (assessment : Option ActuatorAssessment)
  /-- An identity conflict concerns the record. -/
  | marked (incident : IdentityIncident)
  /-- Its history is joined to another. -/
  | rejoined (zoneHistoryId : String)
  /-- A zone takes it, with the evidence about the zone's actuator. -/
  | adopted (zone : ImmutableZoneSnapshot) (zoneHistoryId : String)
      (shadow : AppliedConfigurationShadow) (session : Option PersistedSession)
      (assessment : Option ActuatorAssessment)
  | blocker (reason : BlockerReason) (active : Bool)
  | controllerRuntime (update : ControllerUpdate) (faults : FaultPartition)
  | faultAcknowledged
  | removalAcknowledged (registryEntryId : String) (acknowledgedAtUtc : Instant)

namespace SafetyRecord

/-- `evolve`, without its error. -/
def checked (record : SafetyRecord) : Option SafetyRecord :=
  if Holds record.guards then some record else none

theorem checked_eq_some_iff {record after : SafetyRecord} :
    record.checked = some after ↔ Holds record.guards ∧ record = after := by
  simp [checked]

def adoptedWithEvidence (record : SafetyRecord) (zone : ImmutableZoneSnapshot)
    (zoneHistoryId : String) (shadow : AppliedConfigurationShadow)
    (session : Option PersistedSession) (assessment : Option ActuatorAssessment) : SafetyRecord :=
  (record.adopted zone zoneHistoryId shadow (durableActuatorIdentity zone)).withEvidence session
    assessment false

/-- The record with the operator's proof that its actuator is removed and OFF. -/
def withRemovalProof (record : SafetyRecord) (registryEntryId : String)
    (acknowledgedAtUtc : Instant) : SafetyRecord :=
  { record with
    removedActuatorAck := some
      ⟨acknowledgedAtUtc, registryEntryId, record.actuatorIdentity.lastKnownEntityId⟩ }

def acceptsRemovalProof (record : SafetyRecord) (registryEntryId : String) : Bool :=
  record.runtimeLifecycle ≠ .active && record.actuatorIdentity.identityStatus = .missing &&
    record.actuatorIdentity.registryEntryId = some registryEntryId &&
    record.possibleFlowOwner.isNone && record.actuatorFault.isNone &&
    !record.acknowledgementRequired

end SafetyRecord

def recordLife : LabelledSystem SafetyRecord RecordEvent where
  step record
    | .displaced subentryId => (record.displaced subentryId).checked
    | .reconciled registry history assessment =>
      (reconcileRetainedRecord registry record history assessment).toOption
    | .marked incident => (record.conflicting incident).checked
    | .rejoined zoneHistoryId => (record.rejoined zoneHistoryId).checked
    | .adopted zone zoneHistoryId shadow session assessment =>
      (record.adoptedWithEvidence zone zoneHistoryId shadow session assessment).checked
    | .blocker reason active => (record.withBlocker reason active).checked
    | .controllerRuntime update faults => (update.record faults record).checked
    | .faultAcknowledged =>
      ({ record with actuatorFault := none, acknowledgementRequired := false } :
        SafetyRecord).checked
    | .removalAcknowledged registryEntryId acknowledgedAtUtc =>
      if record.acceptsRemovalProof registryEntryId then
        (record.withRemovalProof registryEntryId acknowledgedAtUtc).checked
      else none

end MoistureLoop
