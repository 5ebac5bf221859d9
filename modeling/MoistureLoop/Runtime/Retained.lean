import MoistureLoop.Store.Continuity

/-! # Reconciling one safety record

What a reconciliation makes of the evidence about one actuator: the blockers and the flow
owner of its record, and for a retained record also its identity and its lifecycle.  Every
`evolve` of the source checks the changed dataclass again; `reconcileRetainedRecord_eq_ok`
says what is left when all checks pass. -/

namespace MoistureLoop

open Checked (Holds)

/-- `evolve`: a changed record is checked again. -/
def SafetyRecord.evolve (record : SafetyRecord) : Except PyError SafetyRecord :=
  checkValue SafetyRecord.guards record

theorem SafetyRecord.evolve_eq_ok_iff {record evolved : SafetyRecord} :
    record.evolve = .ok evolved ↔ Holds record.guards ∧ evolved = record :=
  checkValue_eq_ok_iff

/-- `_with_blocker`. -/
def blockersWith (blockers : List BlockerReason) (reason : BlockerReason) : List BlockerReason :=
  orderBlockers (reason :: blockers)

/-- `_without_blockers`. -/
def blockersWithout (blockers reasons : List BlockerReason) : List BlockerReason :=
  blockers.filter fun item => item ∉ reasons

/-! ## Evidence about one actuator -/

namespace SafetyRecord

/-- The record once its actuator is proven OFF, by observation or by the operator. -/
def provenOff (record : SafetyRecord) (session : Option PersistedSession) : SafetyRecord :=
  let blockers := blockersWithout record.blockerReasons [.actuatorNotProvenOff, .externalFlow]
  { record with
    blockerReasons := blockers
    possibleFlowOwner :=
      if session = none ∧ .integrationOffUnconfirmed ∉ blockers then none
      else record.possibleFlowOwner }

def notProvenOff (record : SafetyRecord) : SafetyRecord :=
  { record with blockerReasons := blockersWith record.blockerReasons .actuatorNotProvenOff }

def withEvidence (record : SafetyRecord) (session : Option PersistedSession)
    (assessment : Option ActuatorAssessment) (operatorOffProof : Bool) : SafetyRecord :=
  match assessment with
  | none => if operatorOffProof then record.provenOff session else record.notProvenOff
  | some assessment =>
    if assessment.provenOff then record.provenOff session
    else if assessment.observedOn ∧ session = none then
      { record with
        blockerReasons := blockersWith record.blockerReasons .externalFlow
        possibleFlowOwner := some .external }
    else record.notProvenOff

end SafetyRecord

/-- `_reconcile_active_record`. -/
def reconcileActiveRecord (record : SafetyRecord) (history : ZoneHistory)
    (assessment : Option ActuatorAssessment) (operatorOffProof : Bool) :
    Except PyError SafetyRecord :=
  (record.withEvidence history.zoneRuntime.session assessment operatorOffProof).evolve

/-! ## Retained records -/

/-- The Entity Registry: the entity ID that a registry entry has now. -/
abbrev EntityRegistry := String → Option String

/-- `entity_id.split(".", 1)[0]`. -/
def entityPrefix (entityId : String) : String :=
  String.ofList (entityId.toList.takeWhile (· ≠ '.'))

namespace SafetyRecord

def renamedIdentity (record : SafetyRecord) (registry : EntityRegistry) : ActuatorIdentity :=
  let identity := record.actuatorIdentity
  match identity.registryEntryId.bind registry, identity.domain with
  | some entity, some domain =>
    if some entity = identity.lastKnownEntityId ∨ entityPrefix entity ≠ domain then identity
    else { identity with lastKnownEntityId := some entity }
  | _, _ => identity

/-- The operator's proof counts while the actuator is absent and covers its identity. -/
def operatorOffProof (record : SafetyRecord) (assessment : Option ActuatorAssessment) : Bool :=
  assessment.isNone && record.removedActuatorAck.any fun ack => ack.covers record.actuatorIdentity

/-- The incident of a retained actuator that cannot be found. -/
def unresolvedIncident (record : SafetyRecord) : IdentityIncident :=
  ⟨.identityMissing, "retained actuator identity unresolved for " ++ record.safetyRecordId⟩

def lookedFor (record : SafetyRecord) (assessment : Option ActuatorAssessment)
    (operatorOffProof : Bool) : SafetyRecord :=
  match assessment with
  | some _ => record
  | none =>
    { record with
      actuatorIdentity := { record.actuatorIdentity with identityStatus := .missing }
      identityIncident := if operatorOffProof then none else some record.unresolvedIncident }

/-- OFF is proven and nothing is left to observe. -/
def safeToRetire (record : SafetyRecord) (session : Option PersistedSession)
    (assessment : Option ActuatorAssessment) (operatorOffProof : Bool) : Bool :=
  (assessment.any ActuatorAssessment.provenOff || operatorOffProof) &&
    decide (record.blockerReasons = [] ∧ record.possibleFlowOwner = none ∧ session = none)

/-- What `_reconcile_retained_record` makes of a record. -/
def retained (record : SafetyRecord) (registry : EntityRegistry) (session : Option PersistedSession)
    (assessment : Option ActuatorAssessment) : SafetyRecord :=
  let renamed := { record with actuatorIdentity := record.renamedIdentity registry }
  let proof := renamed.operatorOffProof assessment
  let settled := (renamed.withEvidence session assessment proof).lookedFor assessment proof
  { settled with
    runtimeLifecycle :=
      if settled.safeToRetire session assessment proof then .retired else .deletePending }

end SafetyRecord

/-- `_retained_identity_after_rename`. -/
def retainedIdentityAfterRename (registry : EntityRegistry) (record : SafetyRecord) :
    Except PyError SafetyRecord := do
  let identity ← checkValue ActuatorIdentity.guards (record.renamedIdentity registry)
  SafetyRecord.evolve { record with actuatorIdentity := identity }

/-- The part of `_reconcile_retained_record` for an actuator that did not resolve. -/
def recordLookedFor (record : SafetyRecord) (assessment : Option ActuatorAssessment)
    (operatorOffProof : Bool) : Except PyError SafetyRecord :=
  match assessment with
  | some _ => .ok record
  | none => do
    let identity ← checkValue ActuatorIdentity.guards
      { record.actuatorIdentity with identityStatus := .missing }
    let found := { record with actuatorIdentity := identity }
    if operatorOffProof then SafetyRecord.evolve { found with identityIncident := none }
    else do
      let incident ← checkValue IdentityIncident.guards record.unresolvedIncident
      SafetyRecord.evolve { found with identityIncident := some incident }

/-- `_reconcile_retained_record`. -/
def reconcileRetainedRecord (registry : EntityRegistry) (record : SafetyRecord)
    (history : ZoneHistory) (assessment : Option ActuatorAssessment) :
    Except PyError SafetyRecord := do
  let renamed ← retainedIdentityAfterRename registry record
  let proof := renamed.operatorOffProof assessment
  let evident ← reconcileActiveRecord renamed history assessment proof
  let settled ← recordLookedFor evident assessment proof
  let lifecycle : RuntimeLifecycle :=
    if settled.safeToRetire history.zoneRuntime.session assessment proof then .retired
    else .deletePending
  SafetyRecord.evolve { settled with runtimeLifecycle := lifecycle }

theorem recordLookedFor_eq_ok {record found : SafetyRecord}
    {assessment : Option ActuatorAssessment} {operatorOffProof : Bool}
    (recorded : recordLookedFor record assessment operatorOffProof = .ok found) :
    found = record.lookedFor assessment operatorOffProof := by
  cases assessment with
  | some assessment => exact (Except.ok.inj recorded).symm
  | none =>
    simp only [recordLookedFor, Except.bind_eq_ok_iff, checkValue_eq_ok_iff] at recorded
    obtain ⟨identity, ⟨-, rfl⟩, recorded⟩ := recorded
    cases operatorOffProof with
    | true =>
      simp only [if_true] at recorded
      exact (SafetyRecord.evolve_eq_ok_iff.mp recorded).2
    | false =>
      simp only [Bool.false_eq_true, if_false, Except.bind_eq_ok_iff, checkValue_eq_ok_iff] at recorded
      obtain ⟨incident, ⟨-, rfl⟩, recorded⟩ := recorded
      exact (SafetyRecord.evolve_eq_ok_iff.mp recorded).2

/-- When every check passes, the record is the reconciled one. -/
theorem reconcileRetainedRecord_eq_ok {registry : EntityRegistry} {record next : SafetyRecord}
    {history : ZoneHistory} {assessment : Option ActuatorAssessment}
    (reconciled : reconcileRetainedRecord registry record history assessment = .ok next) :
    next = record.retained registry history.zoneRuntime.session assessment ∧
      Holds next.guards := by
  simp only [reconcileRetainedRecord, retainedIdentityAfterRename, reconcileActiveRecord,
    Except.bind_eq_ok_iff, checkValue_eq_ok_iff, SafetyRecord.evolve_eq_ok_iff] at reconciled
  obtain ⟨renamed, ⟨identity, ⟨-, rfl⟩, -, rfl⟩, evident, ⟨-, rfl⟩, settled, found, checked, rfl⟩ :=
    reconciled
  obtain rfl := recordLookedFor_eq_ok found
  exact ⟨rfl, checked⟩

/-! ## What a reconciliation leaves alone -/

namespace SafetyRecord

variable {record : SafetyRecord} {registry : EntityRegistry} {session : Option PersistedSession}
  {assessment : Option ActuatorAssessment} {operatorOffProof : Bool} {reason : BlockerReason}

theorem mem_blockersWith {blockers : List BlockerReason} {other : BlockerReason} :
    other ∈ blockersWith blockers reason ↔ other = reason ∨ other ∈ blockers := by
  simp [blockersWith, orderBlockers, List.mem_insertionSort]

theorem withEvidence_frame : ∃ blockers owner,
    record.withEvidence session assessment operatorOffProof =
      { record with blockerReasons := blockers, possibleFlowOwner := owner } := by
  unfold withEvidence
  cases assessment with
  | none => cases operatorOffProof <;> exact ⟨_, _, rfl⟩
  | some assessment =>
    simp only
    split
    · exact ⟨_, _, rfl⟩
    · split <;> exact ⟨_, _, rfl⟩

/-- The registry identity never moves. -/
@[simp] theorem renamedIdentity_registryEntryId :
    (record.renamedIdentity registry).registryEntryId = record.actuatorIdentity.registryEntryId := by
  unfold renamedIdentity
  simp only
  split
  · split <;> rfl
  · rfl

theorem renamedIdentity_of_unregistered
    (unregistered : record.actuatorIdentity.registryEntryId = none) :
    record.renamedIdentity registry = record.actuatorIdentity := by
  simp [renamedIdentity, unregistered]

/-- Looking for the actuator touches the identity status and the incident only. -/
theorem lookedFor_frame : ∃ status incident,
    record.lookedFor assessment operatorOffProof =
      { record with
        actuatorIdentity := { record.actuatorIdentity with identityStatus := status }
        identityIncident := incident } := by
  cases assessment with
  | none => exact ⟨_, _, rfl⟩
  | some assessment => exact ⟨record.actuatorIdentity.identityStatus, record.identityIncident, rfl⟩

/-- A reconciliation leaves the rest of a retained record alone. -/
theorem retained_frame : ∃ status blockers owner incident lifecycle,
    record.retained registry session assessment =
      { record with
        actuatorIdentity := { record.renamedIdentity registry with identityStatus := status }
        blockerReasons := blockers
        possibleFlowOwner := owner
        identityIncident := incident
        runtimeLifecycle := lifecycle } := by
  unfold retained
  simp only
  generalize ({ record with actuatorIdentity := record.renamedIdentity registry } :
    SafetyRecord).operatorOffProof assessment = proof
  obtain ⟨blockers, owner, evident⟩ := @withEvidence_frame
    { record with actuatorIdentity := record.renamedIdentity registry } session assessment proof
  rw [evident]
  obtain ⟨status, incident, found⟩ := @lookedFor_frame
    { record with
      actuatorIdentity := record.renamedIdentity registry
      blockerReasons := blockers
      possibleFlowOwner := owner } assessment proof
  rw [found]
  exact ⟨status, blockers, owner, incident, _, rfl⟩

@[simp] theorem retained_registryEntryId :
    (record.retained registry session assessment).actuatorIdentity.registryEntryId =
      record.actuatorIdentity.registryEntryId := by
  obtain ⟨status, blockers, owner, incident, lifecycle, same⟩ :=
    @retained_frame record registry session assessment
  rw [same]
  exact renamedIdentity_registryEntryId

@[simp] theorem retained_removedActuatorAck :
    (record.retained registry session assessment).removedActuatorAck =
      record.removedActuatorAck := by
  obtain ⟨status, blockers, owner, incident, lifecycle, same⟩ :=
    @retained_frame record registry session assessment
  rw [same]

@[simp] theorem retained_safetyRecordId :
    (record.retained registry session assessment).safetyRecordId = record.safetyRecordId := by
  obtain ⟨status, blockers, owner, incident, lifecycle, same⟩ :=
    @retained_frame record registry session assessment
  rw [same]

end SafetyRecord

theorem reconcileRetainedRecord_frame {registry : EntityRegistry} {record next : SafetyRecord}
    {history : ZoneHistory} {assessment : Option ActuatorAssessment}
    (reconciled : reconcileRetainedRecord registry record history assessment = .ok next) :
    next.zoneHistoryId = record.zoneHistoryId ∧
      next.activeSubentryId = record.activeSubentryId := by
  obtain ⟨rfl, -⟩ := reconcileRetainedRecord_eq_ok reconciled
  obtain ⟨status, blockers, owner, incident, lifecycle, same⟩ := @SafetyRecord.retained_frame
    record registry history.zoneRuntime.session assessment
  rw [same]
  exact ⟨rfl, rfl⟩

/-! ## The retained records of a store -/

/-- One record of `_refresh_tombstone_lifecycles`. -/
def refreshRecord (registry : EntityRegistry) (assessments : String → Option ActuatorAssessment)
    (histories : Dict String ZoneHistory) (safetyRecordId : String) (record : SafetyRecord) :
    Except PyError SafetyRecord :=
  if record.runtimeLifecycle = .active then .ok record
  else
    match histories.get? record.zoneHistoryId with
    | none => .error .key
    | some history =>
      reconcileRetainedRecord registry record history (assessments safetyRecordId)

/-- The mutator of `_refresh_tombstone_lifecycles`: every retained record is reconciled. -/
def refreshTombstones (registry : EntityRegistry)
    (assessments : String → Option ActuatorAssessment) (data : StoreData) :
    Except PyError (Dict String SafetyRecord × Dict String ZoneHistory) :=
  (data.safetyRecords.rewriteM (refreshRecord registry assessments data.zoneHistories)).map
    (·, data.zoneHistories)

theorem reconcile_eq_ok {data next : StoreData}
    {mutator : StoreData → Except PyError (Dict String SafetyRecord × Dict String ZoneHistory)}
    (reconciled : reconcile data mutator = .ok next) :
    mutator data = .ok (next.safetyRecords, next.zoneHistories) := by
  unfold reconcile at reconciled
  split at reconciled
  · cases reconciled
  · rename_i records histories mutated
    have same := StoreFields.check_eq_ok_iff.mp reconciled
    simp [mutated, same]

theorem record_of_refreshTombstones {registry : EntityRegistry}
    {assessments : String → Option ActuatorAssessment} {data next : StoreData}
    (refreshed : reconcile data (refreshTombstones registry assessments) = .ok next)
    {safetyRecordId : String} {record : SafetyRecord}
    (found : data.safetyRecords.get? safetyRecordId = some record) :
    (record.runtimeLifecycle = .active →
      next.safetyRecords.get? safetyRecordId = some record) ∧
    (record.runtimeLifecycle ≠ .active →
      ∃ history after, data.zoneHistories.get? record.zoneHistoryId = some history ∧
        reconcileRetainedRecord registry record history (assessments safetyRecordId) =
          .ok after ∧
        next.safetyRecords.get? safetyRecordId = some after) := by
  have mutated := reconcile_eq_ok refreshed
  unfold refreshTombstones at mutated
  cases rewritten : data.safetyRecords.rewriteM
      (refreshRecord registry assessments data.zoneHistories) with
  | error err => simp [rewritten, Except.map] at mutated
  | ok records =>
    simp only [rewritten, Except.map, Except.ok.injEq, Prod.mk.injEq] at mutated
    obtain ⟨after, reconciled, stored⟩ := (Dict.get?_of_rewriteM rewritten safetyRecordId).2
      record found
    rw [mutated.1] at stored
    unfold refreshRecord at reconciled
    refine ⟨fun active => ?_, fun retained => ?_⟩
    · rw [if_pos active] at reconciled
      rw [stored, Except.ok.inj reconciled]
    · rw [if_neg retained] at reconciled
      split at reconciled
      · cases reconciled
      · rename_i history held
        exact ⟨history, after, held, reconciled, stored⟩

end MoistureLoop
