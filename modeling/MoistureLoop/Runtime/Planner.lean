import MoistureLoop.Runtime.Retained
import MoistureLoop.Runtime.Snapshot

/-! # The reconciliation plan

`_plan_reconciled_store` computes the records and histories that a configuration snapshot
asks for.  It first retains every owner whose zone is gone or has another actuator, and then
chooses, zone by zone, the record of the zone's actuator and the history that continues. -/

namespace MoistureLoop

/-- The IDs that `uuid.uuid4()` gives a new record. -/
structure MintedIds where
  safetyRecordId : String
  safetyLineageId : String
  zoneHistoryId : String
  deriving DecidableEq, Repr

/-- What a plan reads outside the Store. -/
structure PlanEnv where
  registry : EntityRegistry
  /-- `hass.states.get(...) is not None`. -/
  stateExists : String → Bool
  /-- The classification of the zone's current sensor. -/
  classification : ImmutableZoneSnapshot → MoistureClassification
  /-- `assessments.get("zone:...")`, by subentry. -/
  zoneAssessment : String → Option ActuatorAssessment
  /-- `assessments.get("record:...")`, by safety record. -/
  recordAssessment : String → Option ActuatorAssessment
  /-- The IDs minted when the zone of a subentry needs a new record. -/
  mint : String → MintedIds
  today : LocalDate

/-- `_same_actuator`. -/
def sameActuator (record : SafetyRecord) (zone : ImmutableZoneSnapshot) : Bool :=
  match zone.actuatorIdentity.registryEntryId with
  | some uuid => record.actuatorIdentity.registryEntryId = some uuid
  | none =>
    record.activeSubentryId = some zone.subentryId &&
      record.actuatorIdentity.identityStatus = .registryUnavailable &&
      record.actuatorIdentity.lastKnownEntityId = some zone.currentActuator

/-- `_durable_actuator_identity`. -/
def durableActuatorIdentity (zone : ImmutableZoneSnapshot) : ActuatorIdentity where
  registryEntryId := zone.actuatorIdentity.registryEntryId
  lastKnownEntityId := some zone.currentActuator
  domain := some zone.actuatorIdentity.domain
  identityStatus :=
    if zone.actuatorIdentity.registryEntryId.isSome then .registryConfirmed
    else .registryUnavailable
  offService := some
    (if zone.actuatorIdentity.domain = switchDomain then "switch.turn_off"
      else "valve.close_valve")
  confirmTimeoutS := some zone.config.actuatorConfirmTimeoutS

def ImmutableZoneSnapshot.currentSensorIdentity (zone : ImmutableZoneSnapshot) : SensorIdentity :=
  ⟨zone.sensorIdentity.registryEntryId, some zone.currentSensor⟩

/-- The fault of `_current_zone_fault`, by the sensor's classification. -/
def MoistureClassification.zoneFault : MoistureClassification → Option FaultCode
  | .unavailable => some .sensorUnavailable
  | .invalid => some .sensorInvalid
  | .stale => some .sensorStale
  | .valid => none

/-- The complete maps under construction, and the conflicts found so far. -/
structure PlanState where
  records : Dict String SafetyRecord
  histories : Dict String ZoneHistory
  conflicts : List String := []
  deriving DecidableEq

def PlanState.conflict (state : PlanState) (detail : String) : PlanState :=
  { state with conflicts := state.conflicts ++ [detail] }

/-- `d[key]`. -/
def getKey {V : Type} (d : Dict String V) (key : String) : Except PyError V :=
  match d.get? key with
  | some value => .ok value
  | none => .error .key

/-! ## Duplicate identities -/

/-- The key under which a zone's actuator is durable. -/
inductive IdentityKey where
  | uuid (registryEntryId : String)
  | text (entityId : String)
  deriving DecidableEq, Repr

/-- A Registry ID counts when it is non-empty. -/
def ImmutableZoneSnapshot.identityKey (zone : ImmutableZoneSnapshot) : IdentityKey :=
  match zone.actuatorIdentity.registryEntryId with
  | some uuid => if uuid = "" then .text zone.currentActuator else .uuid uuid
  | none => .text zone.currentActuator

def duplicateIdentityConflicts (zones : List ImmutableZoneSnapshot) : List String :=
  let step := fun (seen : Dict IdentityKey String × List String) (zone : ImmutableZoneSnapshot) =>
    let conflicts := match seen.1.get? zone.identityKey with
      | some other =>
        seen.2 ++
          ["actuator identity is selected by both " ++ other ++ " and " ++ zone.subentryId]
      | none => seen.2
    (seen.1.set zone.identityKey zone.subentryId, conflicts)
  (zones.foldl step (Dict.empty, [])).2

/-! ## Retained owners -/

/-- `(*previous, item)` unless the item is there already. -/
def appendMissing (items : List String) (item : String) : List String :=
  if item ∈ items then items else items ++ [item]

def SafetyRecord.displaced (record : SafetyRecord) (subentryId : String) : SafetyRecord :=
  { record with
    activeSubentryId := none
    previousSubentryIds := appendMissing record.previousSubentryIds subentryId
    runtimeLifecycle := .deletePending }

def ZoneHistory.vacated (history : ZoneHistory) (subentryId : String) : ZoneHistory :=
  { history with
    activeSubentryId := none
    previousSubentryIds := appendMissing history.previousSubentryIds subentryId }

def PlanState.reconcileRetained (env : PlanEnv) (state : PlanState) (safetyRecordId : String)
    (record : SafetyRecord) : Except PyError PlanState := do
  let history ← getKey state.histories record.zoneHistoryId
  let retained ← reconcileRetainedRecord env.registry record history
    (env.recordAssessment safetyRecordId)
  .ok { state with records := state.records.set safetyRecordId retained }

/-- One turn of the loop that makes every old owner a durable tombstone. -/
def retainOwner (env : PlanEnv) (snapshot : ImmutableEntrySnapshot) (state : PlanState)
    (entry : String × SafetyRecord) : Except PyError PlanState :=
  match entry.2.activeSubentryId with
  | none => state.reconcileRetained env entry.1 entry.2
  | some subentryId =>
    match snapshot.bySubentryId subentryId with
    | some zone =>
      if sameActuator entry.2 zone then .ok state
      else do
        let record ← (entry.2.displaced subentryId).evolve
        state.reconcileRetained env entry.1 record
    | none => do
      let record ← (entry.2.displaced subentryId).evolve
      let history ← getKey state.histories record.zoneHistoryId
      let vacated ← checkValue ZoneHistory.guards (history.vacated subentryId)
      let left := { state with histories := state.histories.set history.zoneHistoryId vacated }
      left.reconcileRetained env entry.1 record

/-! ## The record of a zone -/

/-- `original_active.get(...)`: the last record of the subentry in the order of the map. -/
def StoreFields.originalActive (data : StoreFields) (subentryId : String) : Option SafetyRecord :=
  data.safetyRecords.values.reverse.find? fun record => record.activeSubentryId = some subentryId

/-- A record that a conflict concerns: the incident is recorded and OFF is not proven. -/
def SafetyRecord.conflicting (record : SafetyRecord) (incident : IdentityIncident) : SafetyRecord :=
  { record with
    identityIncident := some incident
    blockerReasons := blockersWith record.blockerReasons .actuatorNotProvenOff }

namespace PlanState

variable (state : PlanState) (zone : ImmutableZoneSnapshot)

/-- The records of the zone's Registry identity. -/
def exactRecords : List SafetyRecord :=
  state.records.values.filter fun record =>
    zone.actuatorIdentity.registryEntryId.isSome &&
      record.actuatorIdentity.registryEntryId = zone.actuatorIdentity.registryEntryId

/-- The records of another Registry identity that use the zone's entity ID. -/
def textualConflicts : List SafetyRecord :=
  state.records.values.filter fun record =>
    record.actuatorIdentity.lastKnownEntityId = some zone.currentActuator &&
      record.actuatorIdentity.registryEntryId.isSome &&
      record.actuatorIdentity.registryEntryId ≠ zone.actuatorIdentity.registryEntryId

/-- The records of the zone's subentry whose identity is missing. -/
def mappedCandidates : List SafetyRecord :=
  state.records.values.filter fun record =>
    record.zoneId = zone.subentryId && record.activeSubentryId.isNone &&
      record.actuatorIdentity.identityStatus = .missing

/-- The records elsewhere that use the entity ID of an unregistered actuator. -/
def unregisteredConflicts : List SafetyRecord :=
  state.records.values.filter fun record =>
    zone.actuatorIdentity.registryEntryId.isNone &&
      record.activeSubentryId ≠ some zone.subentryId &&
      record.actuatorIdentity.lastKnownEntityId = some zone.currentActuator

def conflictCandidates : List SafetyRecord :=
  state.records.values.filter fun record =>
    record.actuatorIdentity.registryEntryId = zone.actuatorIdentity.registryEntryId ||
      record.activeSubentryId = some zone.subentryId || record.zoneId = zone.subentryId

/-- Report a conflict and keep the candidates, each with the incident and not proven OFF. -/
def markConflict (kind : IdentityIncidentKind) (detail : String)
    (candidates : List SafetyRecord) : Except PyError PlanState :=
  candidates.foldlM (fun marked candidate => do
    let incident ← checkValue IdentityIncident.guards ⟨kind, detail⟩
    let record ← (candidate.conflicting incident).evolve
    .ok { marked with records := marked.records.set candidate.safetyRecordId record })
    (state.conflict detail)

end PlanState

def printedIds (ids : List String) : String :=
  "[" ++ String.intercalate ", " (ids.map fun id => "'" ++ id ++ "'") ++ "]"

/-- What the plan does about the record of one zone. -/
inductive RecordSelection where
  | conflict (kind : IdentityIncidentKind) (detail : String) (candidates : List SafetyRecord)
  | existing (record : SafetyRecord)
  | fresh
  deriving DecidableEq

def selectRecord (env : PlanEnv) (state : PlanState) (prior : Option SafetyRecord)
    (zone : ImmutableZoneSnapshot) : Except PyError RecordSelection :=
  let exact := state.exactRecords zone
  let textual := state.textualConflicts zone
  let mapped := state.mappedCandidates zone
  let conflicting := exact ++ textual
  if 1 < exact.length ∨ textual ≠ [] then
    let ids := (conflicting.map SafetyRecord.safetyRecordId).insertionSort (· ≤ ·)
    .ok (.conflict .identityConflict
      ("identity conflict for " ++ zone.subentryId ++ ": records " ++ printedIds ids) conflicting)
  else
    match prior.filter fun record => sameActuator record zone with
    | some record => (getKey state.records record.safetyRecordId).map .existing
    | none =>
      match exact, mapped with
      | [record], _ => .ok (.existing record)
      | _, [record] =>
        if zone.actuatorIdentity.registryEntryId.isSome ∨ env.stateExists zone.currentActuator then
          .ok (.existing record)
        else .ok (unmatched state zone)
      | _, _ => .ok (unmatched state zone)
where
  /-- A zone without a record: a new one, unless its identity cannot be told. -/
  unmatched (state : PlanState) (zone : ImmutableZoneSnapshot) : RecordSelection :=
    let candidates := state.unregisteredConflicts zone
    if candidates ≠ [] ∨ !env.stateExists zone.currentActuator then
      .conflict .identityMissing
        ("durable actuator identity missing/ambiguous for " ++ zone.subentryId) candidates
    else .fresh

/-- `_new_safety_record`. -/
def newSafetyRecord (env : PlanEnv) (snapshot : ImmutableEntrySnapshot)
    (zone : ImmutableZoneSnapshot) : Except PyError SafetyRecord := do
  let shadow ← checkValue AppliedConfigurationShadow.guards
    (zone.appliedShadow snapshot.entrySnapshotFingerprint snapshot.observedGeneration)
  let identity ← checkValue ActuatorIdentity.guards (durableActuatorIdentity zone)
  let minted := env.mint zone.subentryId
  SafetyRecord.evolve
    { safetyRecordId := minted.safetyRecordId
      zoneId := zone.subentryId
      activeSubentryId := some zone.subentryId
      previousSubentryIds := []
      safetyLineageId := minted.safetyLineageId
      zoneHistoryId := minted.zoneHistoryId
      historicalZoneHistoryIds := []
      runtimeLifecycle := .active
      appliedConfig := some shadow
      actuatorIdentity := identity
      blockerReasons := []
      possibleFlowOwner := none
      identityIncident := none
      actuatorFault := none
      acknowledgementRequired := false }

/-- `_new_zone_history`: a new zone starts disabled. -/
def newZoneHistory (env : PlanEnv) (record : SafetyRecord) (zone : ImmutableZoneSnapshot) :
    Except PyError ZoneHistory := do
  let sensor ← checkValue SensorIdentity.guards zone.currentSensorIdentity
  checkValue ZoneHistory.guards
    { zoneHistoryId := record.zoneHistoryId
      activeSubentryId := some zone.subentryId
      previousSubentryIds := []
      lastSessionEndUtc := none
      lastAutoSessionStartUtc := none
      zoneRuntime :=
        { enabled := false
          state := .disabled
          zoneFault := none
          secondaryFault := none
          sensorIdentity := sensor
          lastSessionSummary := none
          session := none }
      daily := some { dateLocal := env.today, runtimeS := 0 } }

/-! ## The history of a zone -/

/-- A part of the plan for one zone either goes on or reports a conflict. -/
inductive Planned (α : Type) where
  | conflict (detail : String)
  | proceed (value : α)
  deriving DecidableEq

def continuingHistoryId (prior : Option SafetyRecord) (selected : SafetyRecord) : String :=
  (prior.map SafetyRecord.zoneHistoryId).getD selected.zoneHistoryId

def PlanState.referencedElsewhere (state : PlanState) (safetyRecordId zoneHistoryId : String) :
    Bool :=
  state.records.values.any fun record =>
    record.safetyRecordId ≠ safetyRecordId && record.zoneHistoryId = zoneHistoryId

/-- The previous subentries once `subentryId` is the current one. -/
def previousSubentries (previous : List String) (current : Option String) (subentryId : String) :
    List String :=
  let others := previous.filter fun item => item ≠ subentryId
  match current with
  | none => others
  | some current => if current = subentryId then others else appendMissing others current

def SafetyRecord.rejoined (record : SafetyRecord) (zoneHistoryId : String) : SafetyRecord :=
  { record with
    zoneHistoryId
    historicalZoneHistoryIds :=
      appendMissing record.historicalZoneHistoryIds record.zoneHistoryId }

def ZoneHistory.ownedBy (history : ZoneHistory) (subentryId : String) (runtime : ZoneRuntime) :
    ZoneHistory :=
  { history with
    activeSubentryId := some subentryId
    previousSubentryIds :=
      previousSubentries history.previousSubentryIds history.activeSubentryId subentryId
    zoneRuntime := runtime }

/-- A record with a history of its own brings that history's evidence into the one that
continues, and refers to this one from now on. -/
def joinHistories (state : PlanState) (prior : Option SafetyRecord) (selected : SafetyRecord) :
    Except PyError (Planned (PlanState × SafetyRecord)) :=
  let continuingId := continuingHistoryId prior selected
  let retainedId := selected.zoneHistoryId
  if retainedId = continuingId then .ok (.proceed (state, selected))
  else do
    let continuing ← getKey state.histories continuingId
    let retained ← getKey state.histories retainedId
    if retained.zoneRuntime.session.isSome then
      .ok (.conflict
        ("retained record " ++ selected.safetyRecordId ++ " has unresolved session"))
    else do
      let merged ← mergeZoneHistoryContinuity continuing retained
      let histories := state.histories.set continuingId merged
      let kept := if state.referencedElsewhere selected.safetyRecordId retainedId then histories
        else histories.erase retainedId
      let record ← (selected.rejoined continuingId).evolve
      .ok (.proceed ({ state with histories := kept }, record))

/-- The session of the history still belongs to the zone's actuator. -/
def continuingSameActuator (prior : Option SafetyRecord) (exact : List SafetyRecord)
    (selected : SafetyRecord) (zone : ImmutableZoneSnapshot) : Bool :=
  match prior with
  | some prior => selected.safetyRecordId = prior.safetyRecordId && sameActuator prior zone
  | none =>
    match exact with
    | [record] => selected.safetyRecordId = record.safetyRecordId && sameActuator selected zone
    | _ => false

def configurationChanged (selected : SafetyRecord) (zone : ImmutableZoneSnapshot) : Bool :=
  selected.appliedConfig.all (fun applied => applied.configFingerprint ≠ zone.configFingerprint) ||
    selected.activeSubentryId ≠ some zone.subentryId

/-- `reevaluate_operational_state`: the configuration or the actuator is not the one that the
state was reached with. -/
def reevaluatesState (prior : Option SafetyRecord) (exact : List SafetyRecord)
    (selected : SafetyRecord) (zone : ImmutableZoneSnapshot) (createdNew : Bool) : Bool :=
  (!continuingSameActuator prior exact selected zone || configurationChanged selected zone) &&
    !(createdNew && prior.isNone)

/-- The operational part of the history: kept, or derived anew from the faults. -/
def plannedZoneRuntime (env : PlanEnv) (runtime : ZoneRuntime) (selected : SafetyRecord)
    (zone : ImmutableZoneSnapshot) (sensor : SensorIdentity) (sameActuator reevaluated : Bool) :
    ZoneRuntime :=
  let kept := { runtime with
    sensorIdentity := sensor
    session := if sameActuator then runtime.session else none }
  if reevaluated then
    let zoneFault := (env.classification zone).zoneFault
    { kept with
      zoneFault
      secondaryFault := none
      state :=
        if !runtime.enabled then .disabled
        else if selected.actuatorFault.isSome || zoneFault.isSome then .fault else .idle }
  else kept

def SafetyRecord.adopted (selected : SafetyRecord) (zone : ImmutableZoneSnapshot)
    (continuingId : String) (shadow : AppliedConfigurationShadow) (identity : ActuatorIdentity) :
    SafetyRecord :=
  { selected with
    zoneId := zone.subentryId
    activeSubentryId := some zone.subentryId
    previousSubentryIds :=
      previousSubentries selected.previousSubentryIds selected.activeSubentryId zone.subentryId
    zoneHistoryId := continuingId
    runtimeLifecycle := .active
    appliedConfig := some shadow
    actuatorIdentity := identity
    identityIncident := none }

def adoptRecord (env : PlanEnv) (snapshot : ImmutableEntrySnapshot) (state : PlanState)
    (prior : Option SafetyRecord) (exact : List SafetyRecord) (selected : SafetyRecord)
    (zone : ImmutableZoneSnapshot) (createdNew : Bool) : Except PyError PlanState := do
  let continuingId := continuingHistoryId prior selected
  let history ← getKey state.histories continuingId
  let sameActuator := continuingSameActuator prior exact selected zone
  if history.zoneRuntime.session.isSome ∧ !sameActuator then
    .ok (state.conflict ("zone history " ++ continuingId ++ " has unresolved session"))
  else do
    let sensor ← checkValue SensorIdentity.guards zone.currentSensorIdentity
    let runtime ← checkValue ZoneRuntime.guards
      (plannedZoneRuntime env history.zoneRuntime selected zone sensor sameActuator
        (reevaluatesState prior exact selected zone createdNew))
    let planned ← checkValue ZoneHistory.guards (history.ownedBy zone.subentryId runtime)
    let shadow ← checkValue AppliedConfigurationShadow.guards
      (zone.appliedShadow snapshot.entrySnapshotFingerprint snapshot.observedGeneration)
    let identity ← checkValue ActuatorIdentity.guards (durableActuatorIdentity zone)
    let adopted ← (selected.adopted zone continuingId shadow identity).evolve
    let record ← reconcileActiveRecord adopted planned (env.zoneAssessment zone.subentryId) false
    .ok
      { state with
        histories := state.histories.set continuingId planned
        records := state.records.set record.safetyRecordId record }

/-! ## The plan -/

/-- Join the histories and adopt the record. -/
def continueZone (env : PlanEnv) (snapshot : ImmutableEntrySnapshot) (state : PlanState)
    (prior : Option SafetyRecord) (exact : List SafetyRecord) (selected : SafetyRecord)
    (zone : ImmutableZoneSnapshot) (createdNew : Bool) : Except PyError PlanState := do
  match ← joinHistories state prior selected with
  | .conflict detail => .ok (state.conflict detail)
  | .proceed (joined, record) =>
    adoptRecord env snapshot joined prior exact record zone createdNew

/-- One turn of the loop over the configured zones. -/
def planZone (env : PlanEnv) (snapshot : ImmutableEntrySnapshot)
    (originalActive : String → Option SafetyRecord) (state : PlanState)
    (zone : ImmutableZoneSnapshot) : Except PyError PlanState :=
  match zone.identityConflictDetail with
  | some detail =>
    state.markConflict .identityConflict detail (state.conflictCandidates zone)
  | none => do
    let prior := originalActive zone.subentryId
    match ← selectRecord env state prior zone with
    | .conflict kind detail candidates => state.markConflict kind detail candidates
    | .existing selected =>
      continueZone env snapshot state prior (state.exactRecords zone) selected zone false
    | .fresh => do
      let selected ← newSafetyRecord env snapshot zone
      let history ← newZoneHistory env selected zone
      let minted := { state with
        records := state.records.set selected.safetyRecordId selected
        histories := state.histories.set selected.zoneHistoryId history }
      continueZone env snapshot minted prior (state.exactRecords zone) selected zone true

def PlanState.unplanned (snapshot : ImmutableEntrySnapshot) (data : StoreFields) : PlanState where
  records := data.safetyRecords
  histories := data.zoneHistories
  conflicts := duplicateIdentityConflicts snapshot.zones

/-- `_plan_reconciled_store`: the new maps and the conflicts that keep admission closed. -/
def planReconciledStore (env : PlanEnv) (snapshot : ImmutableEntrySnapshot) (data : StoreFields) :
    Except PyError PlanState := do
  let retained ← data.safetyRecords.entries.foldlM (retainOwner env snapshot)
    (.unplanned snapshot data)
  snapshot.zones.foldlM (planZone env snapshot data.originalActive) retained

/-- The mutator that a reconciliation passes to `async_reconcile`. -/
def planMutator (env : PlanEnv) (snapshot : ImmutableEntrySnapshot) (data : StoreData) :
    Except PyError (Dict String SafetyRecord × Dict String ZoneHistory) :=
  (planReconciledStore env snapshot data.toStoreFields).map fun plan => (plan.records, plan.histories)

end MoistureLoop
