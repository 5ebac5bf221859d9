import MoistureLoop.Foundations.SortedSet
import MoistureLoop.Store.Consistent

/-! # Store operations

The transactions of `SafetyStore` as pure functions: each one computes the new
complete snapshot or raises.  Whether the backend then accepts the snapshot is
decided by the caller of the model. -/

namespace MoistureLoop

open Checked (Holds)

/-! ## Controller runtime -/

/-- The keyword arguments of `async_update_controller_runtime`. -/
structure ControllerUpdate where
  state : ControllerState
  enabled : Bool
  activeFault : Option FaultCode
  secondaryFault : Option FaultCode
  lastSessionEndUtc : Option Instant
  lastAutoSessionStartUtc : Option Instant
  daily : Option DailyRuntime
  lastSessionSummary : Option SessionSummary
  session : Option SessionContext
  possibleFlowOwner : Option PossibleFlowOwner
  deriving DecidableEq, Repr

/-- The persisted owners of a fault pair: actuator, zone and secondary zone fault. -/
structure FaultPartition where
  actuatorFault : Option FaultCode
  zoneFault : Option FaultCode
  secondaryZoneFault : Option FaultCode
  deriving DecidableEq, Repr

/-- `_partition_controller_faults`. -/
def partitionControllerFaults (primary secondary : Option FaultCode) :
    Except PyError FaultPartition :=
  let actuatorFaults := (primary.toList ++ secondary.toList).filter FaultCode.isActuatorFault
  if 1 < actuatorFaults.length then
    .error (.storeWriteVerification
      "controller state contains two actuator faults and cannot be represented safely")
  else
    .ok
      { actuatorFault := actuatorFaults.head?
        zoneFault := primary.filter FaultCode.isZoneFault
        secondaryZoneFault := secondary.filter FaultCode.isZoneFault }

/-- `_merge_controller_daily_runtime`. -/
def mergeControllerDailyRuntime (current : Option ZoneDailyRuntime)
    (replacement : Option DailyRuntime) : Option ZoneDailyRuntime :=
  replacement.map fun replacement =>
    match current.filter fun day => day.dateLocal = replacement.dateLocal with
    | none =>
      { dateLocal := replacement.dateLocal
        runtimeS := replacement.runtimeS
        conservativeUnattributedRuntimeS := replacement.runtimeS }
    | some day =>
      { dateLocal := replacement.dateLocal
        runtimeS := replacement.runtimeS
        conservativeUnattributedRuntimeS :=
          max 0 (replacement.runtimeS - knownRuntime day.contributions)
        contributions := day.contributions }

/-- The history a controller write stores. -/
def ControllerUpdate.history (update : ControllerUpdate) (safetyRecordId : String)
    (faults : FaultPartition) (history : ZoneHistory) : ZoneHistory :=
  { history with
    lastSessionEndUtc := update.lastSessionEndUtc
    lastAutoSessionStartUtc := update.lastAutoSessionStartUtc
    zoneRuntime :=
      { enabled := update.enabled
        state := update.state
        zoneFault := faults.zoneFault
        secondaryFault := faults.secondaryZoneFault
        sensorIdentity := history.zoneRuntime.sensorIdentity
        lastSessionSummary := update.lastSessionSummary
        session := update.session.map (PersistedSession.mk safetyRecordId) }
    daily := mergeControllerDailyRuntime history.daily update.daily }

def ControllerUpdate.record (update : ControllerUpdate) (faults : FaultPartition)
    (record : SafetyRecord) : SafetyRecord :=
  { record with
    possibleFlowOwner := update.possibleFlowOwner
    actuatorFault := faults.actuatorFault
    acknowledgementRequired := faults.actuatorFault.any FaultCode.requiresUserAck }

def ControllerUpdate.fields (update : ControllerUpdate) (data : StoreFields)
    (safetyRecordId zoneHistoryId : String) (faults : FaultPartition) (history : ZoneHistory)
    (record : SafetyRecord) : StoreFields :=
  { data with
    storeRevision := data.storeRevision + 1
    zoneHistories := data.zoneHistories.set zoneHistoryId
      (update.history safetyRecordId faults history)
    safetyRecords := data.safetyRecords.set safetyRecordId (update.record faults record) }

/-- `async_update_controller_runtime` up to the verified save. -/
def updateControllerRuntime (data : StoreData) (safetyRecordId zoneHistoryId : String)
    (update : ControllerUpdate) : Except PyError StoreData :=
  match data.safetyRecords.get? safetyRecordId, data.zoneHistories.get? zoneHistoryId with
  | none, _ =>
    .error (.storeWriteVerification ("unknown canonical safety_record_id " ++ safetyRecordId))
  | some _, none =>
    .error (.storeWriteVerification
      "controller safety-record/zone-history ownership mismatch")
  | some record, some history =>
    if record.zoneHistoryId ≠ zoneHistoryId then
      .error (.storeWriteVerification
        "controller safety-record/zone-history ownership mismatch")
    else
      match partitionControllerFaults update.activeFault update.secondaryFault with
      | .error err => .error err
      | .ok faults =>
        (update.fields data.toStoreFields safetyRecordId zoneHistoryId faults history record).check

/-! ## Blockers -/

/-- `sorted(..., key=lambda item: item.value)` of a blocker set. -/
def orderBlockers (blockers : List BlockerReason) : List BlockerReason :=
  blockers.dedup.insertionSort fun left right => left.value ≤ right.value

theorem mem_orderBlockers {blockers : List BlockerReason} {reason : BlockerReason} :
    reason ∈ orderBlockers blockers ↔ reason ∈ blockers := by
  simp [orderBlockers]

theorem orderBlockers_nodup (blockers : List BlockerReason) : (orderBlockers blockers).Nodup :=
  nodup_sortedSet

theorem blockerReason_keyedBy (blockers : List BlockerReason) :
    KeyedBy BlockerReason.value blockers := by
  intro left _ right _ same
  cases left <;> cases right <;> first | rfl | exact absurd same (by decide)

/-- The stored order depends on the set of blockers only. -/
theorem orderBlockers_congr {blockers others : List BlockerReason}
    (same : ∀ reason, reason ∈ blockers ↔ reason ∈ others) :
    orderBlockers blockers = orderBlockers others :=
  sortedSet_congr (blockerReason_keyedBy blockers) same

def blockerFlowOwner (reason : BlockerReason) (active : Bool) (blockers : List BlockerReason)
    (owner : Option PossibleFlowOwner) : Option PossibleFlowOwner :=
  if active then
    match reason with
    | .externalFlow => some .external
    | .integrationOffUnconfirmed => some .integration
    | .actuatorNotProvenOff => owner
  else if .integrationOffUnconfirmed ∈ blockers then some .integration
  else if .externalFlow ∈ blockers then some .external
  else none

def SafetyRecord.withBlocker (record : SafetyRecord) (reason : BlockerReason) (active : Bool) :
    SafetyRecord :=
  let ordered := orderBlockers
    (if active then reason :: record.blockerReasons else record.blockerReasons.erase reason)
  { record with
    blockerReasons := ordered
    possibleFlowOwner := blockerFlowOwner reason active ordered record.possibleFlowOwner }

def StoreFields.setRecord (data : StoreFields) (safetyRecordId : String)
    (record : SafetyRecord) : StoreFields :=
  { data with
    storeRevision := data.storeRevision + 1
    safetyRecords := data.safetyRecords.set safetyRecordId record }

/-- `async_set_record_blocker` up to the verified save; `none` when the record
already lists exactly the requested blockers and nothing is saved. -/
def setRecordBlocker (data : StoreData) (safetyRecordId : String) (reason : BlockerReason)
    (active : Bool) : Except PyError (Option StoreData) :=
  match data.safetyRecords.get? safetyRecordId with
  | none => .error (.storeNotLoaded ("unknown safety_record_id " ++ safetyRecordId))
  | some record =>
    let changed := record.withBlocker reason active
    if changed.blockerReasons = record.blockerReasons then .ok none
    else (data.toStoreFields.setRecord safetyRecordId changed).check.map some

/-- `_save_and_verify_locked`: the backend keeps the snapshot or the write fails. -/
def saveAndVerify (data : StoreData) (saved : Bool) : Except PyError StoreData :=
  if saved then .ok data else .error (.storeWriteVerification "safety write failed")

/-! ## Acknowledgements -/

/-- `async_acknowledge_actuator_fault`. -/
def acknowledgeActuatorFault (data : StoreData) (safetyRecordId safetyLineageId : String)
    (expectedFault : FaultCode) : Except PyError StoreData :=
  match data.safetyRecords.get? safetyRecordId with
  | none =>
    .error (.storeWriteVerification ("unknown canonical safety_record_id " ++ safetyRecordId))
  | some record =>
    let openSession := (data.zoneHistories.get? record.zoneHistoryId).any fun history =>
      history.zoneRuntime.session.isSome
    let refusals : List (Bool × String) :=
      [(record.safetyLineageId ≠ safetyLineageId, "safety-record lineage mismatch"),
       (record.actuatorFault ≠ some expectedFault, "safety-record fault changed"),
       (!record.acknowledgementRequired || !expectedFault.requiresUserAck,
          "fault is not user-acknowledgeable"),
       (record.identityIncident.isSome || record.actuatorIdentity.identityStatus.unresolved,
          "actuator identity is unresolved"),
       (record.blockerReasons ≠ [] || record.possibleFlowOwner.isSome || openSession,
          "physical OFF/accounting evidence is unresolved"),
       (record.runtimeLifecycle ≠ .retired,
          "detached acknowledgement requires a safely RETIRED record")]
    match Checked.raiseFirst PyError.storeWriteVerification refusals with
    | .error err => .error err
    | .ok () =>
      (data.toStoreFields.setRecord safetyRecordId
        { record with actuatorFault := none, acknowledgementRequired := false }).check

/-- `async_acknowledge_removed_actuator`. -/
def acknowledgeRemovedActuator (data : StoreData)
    (safetyRecordId safetyLineageId registryEntryId : String) (acknowledgedAtUtc : Instant) :
    Except PyError StoreData :=
  match data.safetyRecords.get? safetyRecordId with
  | none =>
    .error (.storeWriteVerification ("unknown canonical safety_record_id " ++ safetyRecordId))
  | some record =>
    let openSession := (data.zoneHistories.get? record.zoneHistoryId).any fun history =>
      history.zoneRuntime.session.isSome
    let refusals : List (Bool × String) :=
      [(record.safetyLineageId ≠ safetyLineageId, "safety-record lineage mismatch"),
       (record.runtimeLifecycle = .active,
          "removed-actuator acknowledgement requires a retained record"),
       (record.actuatorIdentity.identityStatus ≠ .missing, "actuator identity is not absent"),
       (record.actuatorIdentity.registryEntryId ≠ some registryEntryId,
          "actuator registry identity mismatch"),
       (record.possibleFlowOwner.isSome, "possible flow ownership is unresolved"),
       (openSession, "an open session still references this record"),
       (record.actuatorFault.isSome || record.acknowledgementRequired,
          "an unresolved actuator fault remains")]
    match Checked.raiseFirst PyError.storeWriteVerification refusals with
    | .error err => .error err
    | .ok () =>
      (data.toStoreFields.setRecord safetyRecordId
        { record with
          removedActuatorAck := some
            ⟨acknowledgedAtUtc, registryEntryId, record.actuatorIdentity.lastKnownEntityId⟩ }).check

/-! ## Reconciliation and restart -/

/-- `async_reconcile`: the mutator returns the complete new maps. -/
def reconcile (data : StoreData)
    (mutator : StoreData →
      Except PyError (Dict String SafetyRecord × Dict String ZoneHistory)) :
    Except PyError StoreData :=
  match mutator data with
  | .error err => .error err
  | .ok (records, histories) =>
    StoreFields.check
      { data.toStoreFields with
        storeRevision := data.storeRevision + 1
        safetyRecords := records
        zoneHistories := histories }

/-- What `session_to_dict` keeps: the live-only fields return to their defaults. -/
def SessionContext.persisted (session : SessionContext) : SessionContext :=
  { session with
    sensorFreshUntilUtc := none
    sensorFreshnessWatchdogGeneration := 0
    lastRecheckValue := none
    pendingTerminationReason := none }

def PersistedSession.persisted (session : PersistedSession) : PersistedSession :=
  { session with context := session.context.persisted }

def ZoneHistory.persisted (history : ZoneHistory) : ZoneHistory :=
  { history with
    zoneRuntime := { history.zoneRuntime with
      session := history.zoneRuntime.session.map PersistedSession.persisted } }

/-- The snapshot a new process loads. -/
def StoreFields.persisted (data : StoreFields) : StoreFields :=
  { data with zoneHistories := data.zoneHistories.mapValues fun _ => ZoneHistory.persisted }

end MoistureLoop
