import MoistureLoop.Runtime.Lineage
import MoistureLoop.Store.Updates

/-! # The operator's removal proof

An accepted acknowledgement stands in for the missing proof of OFF while the actuator is
absent.  It names a Registry identity and nothing else, and the identity of a retained record
never moves: an actuator that was seen again in the meantime does not revoke it. -/

namespace MoistureLoop

open Checked (Holds)

namespace SafetyRecord

variable {record after : SafetyRecord} {registry : EntityRegistry} {history : ZoneHistory}

def CarriesRemovalProof (record : SafetyRecord) : Prop :=
  ∃ ack, record.removedActuatorAck = some ack ∧ ack.covers record.actuatorIdentity = true

theorem CarriesRemovalProof.of_same (carries : record.CarriesRemovalProof)
    (ack : after.removedActuatorAck = record.removedActuatorAck)
    (identity : after.actuatorIdentity.registryEntryId = record.actuatorIdentity.registryEntryId) :
    after.CarriesRemovalProof := by
  obtain ⟨given, held, covers⟩ := carries
  refine ⟨given, ack.trans held, ?_⟩
  simpa [RemovedActuatorAcknowledgement.covers, identity] using covers

theorem carriesRemovalProof_withRemovalProof {registryEntryId : String}
    {acknowledgedAtUtc : Instant} (accepted : record.acceptsRemovalProof registryEntryId = true) :
    (record.withRemovalProof registryEntryId acknowledgedAtUtc).CarriesRemovalProof := by
  simp only [acceptsRemovalProof, Bool.and_eq_true, decide_eq_true_eq] at accepted
  exact ⟨_, rfl, decide_eq_true accepted.1.1.1.2⟩

theorem not_carriesRemovalProof_of_active (valid : Holds record.guards)
    (active : record.runtimeLifecycle = .active) : record.removedActuatorAck = none := by
  simp only [guards, Checked.holds_append, Checked.holds_cons] at valid
  obtain ⟨-, -, -, -, -, -, -, alone, -⟩ := valid
  simpa [active, Option.isSome_eq_false_iff] using alone

/-- Adopting a record keeps its proof, and so fails on a record that carries one. -/
theorem adoptedWithEvidence_removedActuatorAck {zone : ImmutableZoneSnapshot}
    {zoneHistoryId : String} {shadow : AppliedConfigurationShadow}
    {session : Option PersistedSession} {assessment : Option ActuatorAssessment} :
    (record.adoptedWithEvidence zone zoneHistoryId shadow session
        assessment).removedActuatorAck = record.removedActuatorAck ∧
      (record.adoptedWithEvidence zone zoneHistoryId shadow session
        assessment).runtimeLifecycle = .active := by
  obtain ⟨blockers, owner, same⟩ := @withEvidence_frame
    (record.adopted zone zoneHistoryId shadow (durableActuatorIdentity zone)) session assessment
    false
  rw [adoptedWithEvidence, same]
  exact ⟨rfl, rfl⟩

end SafetyRecord

open SafetyRecord

theorem carriesRemovalProof_of_step {record after : SafetyRecord} {event : RecordEvent}
    (carries : record.CarriesRemovalProof) (stepped : recordLife.step record event = some after) :
    after.CarriesRemovalProof := by
  cases event with
  | displaced subentryId =>
    obtain ⟨-, rfl⟩ := checked_eq_some_iff.mp stepped
    exact carries.of_same rfl rfl
  | reconciled registry history assessment =>
    obtain ⟨rfl, -⟩ := reconcileRetainedRecord_eq_ok (Except.toOption_eq_some_iff.mp stepped)
    exact carries.of_same retained_removedActuatorAck retained_registryEntryId
  | marked incident =>
    obtain ⟨-, rfl⟩ := checked_eq_some_iff.mp stepped
    exact carries.of_same rfl rfl
  | rejoined zoneHistoryId =>
    obtain ⟨-, rfl⟩ := checked_eq_some_iff.mp stepped
    exact carries.of_same rfl rfl
  | adopted zone zoneHistoryId shadow session assessment =>
    obtain ⟨valid, rfl⟩ := checked_eq_some_iff.mp stepped
    obtain ⟨same, active⟩ := @adoptedWithEvidence_removedActuatorAck record zone zoneHistoryId
      shadow session assessment
    obtain ⟨ack, held, -⟩ := carries
    rw [not_carriesRemovalProof_of_active valid active, held] at same
    cases same
  | blocker reason active =>
    obtain ⟨-, rfl⟩ := checked_eq_some_iff.mp stepped
    exact carries.of_same rfl rfl
  | controllerRuntime update faults =>
    obtain ⟨-, rfl⟩ := checked_eq_some_iff.mp stepped
    exact carries.of_same rfl rfl
  | faultAcknowledged =>
    obtain ⟨-, rfl⟩ := checked_eq_some_iff.mp stepped
    exact carries.of_same rfl rfl
  | removalAcknowledged registryEntryId acknowledgedAtUtc =>
    obtain ⟨accepted, stepped⟩ := Option.ite_none_right_eq_some.mp stepped
    obtain ⟨-, rfl⟩ := checked_eq_some_iff.mp stepped
    exact carriesRemovalProof_withRemovalProof accepted

/-! ## Reconciliations after a return -/

/-- A record, and whether its actuator was found since the last acknowledgement. -/
structure RemovalProof where
  record : SafetyRecord
  returned : Bool
  deriving DecidableEq

/-- An actuator that is found has returned; a new acknowledgement starts again. -/
def RecordEvent.returned (before : Bool) : RecordEvent → Bool
  | .reconciled _ _ (some _) => true
  | .removalAcknowledged .. => false
  | _ => before

def proofLife : LabelledSystem RemovalProof RecordEvent where
  step proof event :=
    (recordLife.step proof.record event).map fun record => ⟨record, event.returned proof.returned⟩

/-- A reconciliation uses no proof of OFF: it clears neither hazard, leaves the owner of a
possible flow, and does not retire the record. -/
structure KeepsHazards (record next : SafetyRecord) : Prop where
  externalFlow : .externalFlow ∈ record.blockerReasons → .externalFlow ∈ next.blockerReasons
  notProvenOff :
    .actuatorNotProvenOff ∈ record.blockerReasons → .actuatorNotProvenOff ∈ next.blockerReasons
  owner : next.possibleFlowOwner = none → record.possibleFlowOwner = none
  kept : next.runtimeLifecycle ≠ .retired

/-- While the actuator is absent a carried proof is used exactly as an observed OFF. -/
theorem retained_of_carriesRemovalProof {record : SafetyRecord} {registry : EntityRegistry}
    {session : Option PersistedSession} (carries : record.CarriesRemovalProof) :
    (record.retained registry session none).blockerReasons =
        (record.provenOff session).blockerReasons ∧
      (record.retained registry session none).possibleFlowOwner =
        (record.provenOff session).possibleFlowOwner ∧
      ((record.retained registry session none).runtimeLifecycle = .retired ↔
        (record.provenOff session).blockerReasons = [] ∧
          (record.provenOff session).possibleFlowOwner = none ∧ session = none) := by
  obtain ⟨ack, held, covers⟩ := carries
  have proof : ({ record with actuatorIdentity := record.renamedIdentity registry } :
      SafetyRecord).operatorOffProof none = true := by
    simpa [operatorOffProof, held, RemovedActuatorAcknowledgement.covers] using covers
  unfold retained
  simp only [proof, withEvidence, lookedFor, if_true, safeToRetire, Option.any_none,
    Bool.false_or, Bool.true_and, decide_eq_true_eq]
  refine ⟨rfl, rfl, ?_⟩
  by_cases safe : (record.provenOff session).blockerReasons = [] ∧
      (record.provenOff session).possibleFlowOwner = none ∧ session = none
  · exact ⟨fun _ => safe, fun _ => if_pos safe⟩
  · refine ⟨fun retired => ?_, fun held => absurd held safe⟩
    have chosen : (if (record.provenOff session).blockerReasons = [] ∧
        (record.provenOff session).possibleFlowOwner = none ∧ session = none then
        RuntimeLifecycle.retired else .deletePending) = .retired := retired
    rw [if_neg safe] at chosen
    cases chosen

theorem keepsHazards_iff {record next : SafetyRecord} {registry : EntityRegistry}
    {history : ZoneHistory} (carries : record.CarriesRemovalProof)
    (reconciled : reconcileRetainedRecord registry record history none = .ok next) :
    KeepsHazards record next ↔
      .externalFlow ∉ record.blockerReasons ∧ .actuatorNotProvenOff ∉ record.blockerReasons ∧
      (.integrationOffUnconfirmed ∈ record.blockerReasons ∨
        history.zoneRuntime.session.isSome = true) := by
  obtain ⟨rfl, -⟩ := reconcileRetainedRecord_eq_ok reconciled
  obtain ⟨blockers, owner, retires⟩ :=
    @retained_of_carriesRemovalProof record registry history.zoneRuntime.session carries
  have without : ∀ reason, reason ∈ (record.provenOff history.zoneRuntime.session).blockerReasons ↔
      reason ∈ record.blockerReasons ∧ reason ≠ .actuatorNotProvenOff ∧ reason ≠ .externalFlow := by
    intro reason
    simp [provenOff, blockersWithout]
  constructor
  · intro keeps
    refine ⟨fun present => ?_, fun present => ?_, ?_⟩
    · have stays := keeps.externalFlow present
      rw [blockers, without] at stays
      exact stays.2.2 rfl
    · have stays := keeps.notProvenOff present
      rw [blockers, without] at stays
      exact stays.2.1 rfl
    · by_contra closed
      simp only [not_or, Bool.not_eq_true, Option.isSome_eq_false_iff,
        Option.isNone_iff_eq_none] at closed
      refine keeps.kept (retires.mpr ⟨?_, ?_, closed.2⟩)
      · rw [List.eq_nil_iff_forall_not_mem]
        intro reason present
        obtain ⟨present, notOff, notExternal⟩ := (without reason).mp present
        cases reason with
        | externalFlow => exact notExternal rfl
        | integrationOffUnconfirmed => exact closed.1 present
        | actuatorNotProvenOff => exact notOff rfl
      · simp [provenOff, blockersWithout, closed.1, closed.2]
  · rintro ⟨noExternal, noUnproven, accounted⟩
    refine ⟨fun present => absurd present noExternal, fun present => absurd present noUnproven,
      ?_, ?_⟩
    · rw [owner]
      obtain unconfirmed | held := accounted
      · simp [provenOff, blockersWithout, unconfirmed]
      · have held' : history.zoneRuntime.session ≠ none := Option.isSome_iff_ne_none.mp held
        simp [provenOff, held']
    · intro retired
      obtain ⟨empty, -, closed⟩ := retires.mp retired
      obtain unconfirmed | held := accounted
      · have stays := (without .integrationOffUnconfirmed).mpr ⟨unconfirmed, by decide, by decide⟩
        rw [empty] at stays
        cases stays
      · rw [closed] at held
        cases held

/-- Whatever was seen since the proof, also the actuator itself, a reconciliation in which it is
absent uses the old proof, unless there is nothing for it to clear: no other blocker than an
unconfirmed OFF, or accounting that is still open. -/
theorem keepsHazards_of_returned_iff {record : SafetyRecord} {registryEntryId : String}
    {acknowledgedAtUtc : Instant} {acknowledged : SafetyRecord} {finish : RemovalProof}
    {registry : EntityRegistry} {history : ZoneHistory} {next : SafetyRecord}
    (accepted : recordLife.step record (.removalAcknowledged registryEntryId acknowledgedAtUtc) =
      some acknowledged)
    (reached : proofLife.Run (fun _ _ _ => True) ⟨acknowledged, false⟩ finish)
    (reconciled : reconcileRetainedRecord registry finish.record history none = .ok next) :
    KeepsHazards finish.record next ↔
      .externalFlow ∉ finish.record.blockerReasons ∧
      .actuatorNotProvenOff ∉ finish.record.blockerReasons ∧
      (.integrationOffUnconfirmed ∈ finish.record.blockerReasons ∨
        history.zoneRuntime.session.isSome = true) := by
  refine keepsHazards_iff ?_ reconciled
  -- The proof is carried once accepted, and every event keeps it.
  have carries : acknowledged.CarriesRemovalProof := by
    obtain ⟨accepts, stepped⟩ := Option.ite_none_right_eq_some.mp accepted
    obtain ⟨-, rfl⟩ := checked_eq_some_iff.mp stepped
    exact carriesRemovalProof_withRemovalProof accepts
  refine @LabelledSystem.Run.preserves _ _ _ _ _ _
    (fun proof => proof.record.CarriesRemovalProof) reached carries ?_
  intro proof event next carries stepped _
  obtain ⟨after, happened, rfl⟩ := Option.map_eq_some_iff.mp stepped
  exact carriesRemovalProof_of_step carries happened

/-! ## An actuator that comes back ON and disappears again -/

/-- The record of a bed whose valve is gone, not proven OFF. -/
def removedRecord : SafetyRecord :=
  { sampleRecord "record-a" "bed" "history-a" "uuid-a" "switch.a" with
    activeSubentryId := none
    previousSubentryIds := ["bed"]
    runtimeLifecycle := .deletePending
    actuatorIdentity :=
      { sampleActuatorIdentity "uuid-a" "switch.a" with identityStatus := .missing }
    blockerReasons := [.actuatorNotProvenOff]
    identityIncident := some
      ⟨.identityMissing, "retained actuator identity unresolved for record-a"⟩ }

/-- The record once the operator has certified that the valve is OFF. -/
def certifiedRecord : SafetyRecord := removedRecord.withRemovalProof "uuid-a" 10

def noEntity : EntityRegistry := fun _ => none

/-- The certified record once its valve has been seen ON. -/
def seenOnRecord : SafetyRecord :=
  certifiedRecord.retained noEntity none (some ⟨true, false, true, Bool.false_and true⟩)

private theorem seenOn_reached : proofLife.Run (fun _ _ _ => True) ⟨certifiedRecord, false⟩
    ⟨seenOnRecord, true⟩ := by
  have executed : proofLife.run ⟨certifiedRecord, false⟩
      [.reconciled noEntity (sampleHistory "history-a" "bed")
        (some ⟨true, false, true, Bool.false_and true⟩)] =
      some ⟨seenOnRecord, true⟩ := by decide +kernel
  exact .of_run executed

theorem keepsHazards_of_returned_iff_seenOn :
    KeepsHazards seenOnRecord (seenOnRecord.retained noEntity none none) ↔
      .externalFlow ∉ seenOnRecord.blockerReasons ∧
      .actuatorNotProvenOff ∉ seenOnRecord.blockerReasons ∧
      (.integrationOffUnconfirmed ∈ seenOnRecord.blockerReasons ∨
        (sampleHistory "history-a" "bed").zoneRuntime.session.isSome = true) :=
  keepsHazards_of_returned_iff
    (show recordLife.step removedRecord (.removalAcknowledged "uuid-a" 10) = some certifiedRecord
      by decide +kernel)
    seenOn_reached
    (show reconcileRetainedRecord noEntity seenOnRecord (sampleHistory "history-a" "bed") none =
      .ok (seenOnRecord.retained noEntity none none) by decide +kernel)

/-- The valve was certified OFF, came back ON and disappeared again: the old certificate
clears its external flow and retires the record. -/
theorem not_keepsHazards_seenOn :
    ¬ ∀ (record acknowledged next : SafetyRecord) (registryEntryId : String)
      (acknowledgedAtUtc : Instant) (finish : RemovalProof) (registry : EntityRegistry)
      (history : ZoneHistory),
      recordLife.step record (.removalAcknowledged registryEntryId acknowledgedAtUtc) =
        some acknowledged →
      proofLife.Run (fun _ _ _ => True) ⟨acknowledged, false⟩ finish → finish.returned = true →
      reconcileRetainedRecord registry finish.record history none = .ok next →
      KeepsHazards finish.record next := by
  intro lapses
  have keeps := lapses removedRecord certifiedRecord (seenOnRecord.retained noEntity none none)
    "uuid-a" 10 ⟨seenOnRecord, true⟩ noEntity (sampleHistory "history-a" "bed")
    (by decide +kernel) seenOn_reached rfl (by decide +kernel)
  exact keeps.kept (by decide +kernel)

end MoistureLoop
