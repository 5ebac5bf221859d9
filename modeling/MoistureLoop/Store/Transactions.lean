import MoistureLoop.Store.Continuity
import MoistureLoop.Store.ReadBack

/-! # The other transactions of the store

The run-ID protocol, the history handoff, the owner rebase and the two snapshots that do
not come from an earlier one, each up to the verified save.  `Succeeds` is what the
transactions over a loaded snapshot share: the next revision of the same generation. -/

namespace MoistureLoop

/-! ## Run-ID protocol -/

/-- `async_begin_new_run`. -/
def beginNewRun (data : StoreData) (newActiveRunId : String) : Except PyError StoreData :=
  StoreFields.check
    { data.toStoreFields with
      storeRevision := data.storeRevision + 1
      run := ⟨some newActiveRunId, data.run.lastCleanShutdownRunId⟩ }

/-- `async_mark_clean_shutdown`. -/
def markCleanShutdown (data : StoreData) : Except PyError StoreData :=
  StoreFields.check
    { data.toStoreFields with
      storeRevision := data.storeRevision + 1
      run := ⟨data.run.activeRunId, data.run.activeRunId⟩ }

/-! ## Trusted SOAKING -/

def ZoneHistory.withOwnerRun (history : ZoneHistory) (newRunId : String) : ZoneHistory :=
  { history with
    zoneRuntime := { history.zoneRuntime with
      session := history.zoneRuntime.session.map fun persisted =>
        { persisted with context := { persisted.context with ownerRunId := newRunId } } } }

/-- `async_rebase_soaking_owner_for_record` with `_rebase_soaking_owner_locked`. -/
def rebaseSoakingOwnerForRecord (data : StoreData) (safetyRecordId newRunId : String) :
    Except PyError StoreData :=
  match data.safetyRecords.get? safetyRecordId with
  | none =>
    .error (.storeNotLoaded ("record " ++ safetyRecordId ++ " has no persisted session"))
  | some record =>
    match data.zoneHistories.get? record.zoneHistoryId with
    | none => .error .key
    | some history =>
      if history.zoneRuntime.session.isNone then
        .error (.storeNotLoaded ("record " ++ record.safetyRecordId ++ " has no persisted session"))
      else
        StoreFields.check
          { data.toStoreFields with
            storeRevision := data.storeRevision + 1
            zoneHistories := data.zoneHistories.set history.zoneHistoryId
              (history.withOwnerRun newRunId) }

/-! ## History handoff -/

def SafetyRecord.handedTo (record : SafetyRecord) (continuingZoneHistoryId : String) :
    SafetyRecord :=
  { record with
    zoneHistoryId := continuingZoneHistoryId
    historicalZoneHistoryIds :=
      if record.zoneHistoryId ∈ record.historicalZoneHistoryIds then record.historicalZoneHistoryIds
      else record.historicalZoneHistoryIds ++ [record.zoneHistoryId] }

def referrers (data : StoreData) (zoneHistoryId : String) : List String :=
  (data.safetyRecords.values.filter fun record => record.zoneHistoryId = zoneHistoryId).map
    SafetyRecord.safetyRecordId

/-- `async_merge_zone_history_for_record` up to the verified save; `none` when the record
already refers to the history that continues and nothing is saved. -/
def mergeZoneHistoryForRecord (data : StoreData)
    (continuingZoneHistoryId retainedSafetyRecordId : String) :
    Except PyError (Option StoreData) :=
  match data.zoneHistories.get? continuingZoneHistoryId,
    data.safetyRecords.get? retainedSafetyRecordId with
  | none, _ =>
    .error (.storeNotLoaded ("unknown zone_history_id " ++ continuingZoneHistoryId))
  | some _, none =>
    .error (.storeNotLoaded ("unknown safety_record_id " ++ retainedSafetyRecordId))
  | some continuing, some retainedRecord =>
    if retainedRecord.zoneHistoryId = continuingZoneHistoryId then .ok none
    else match data.zoneHistories.get? retainedRecord.zoneHistoryId with
    | none =>
      .error (.storeNotLoaded
        ("unknown retained zone_history_id " ++ retainedRecord.zoneHistoryId))
    | some retained =>
      if retainedRecord.runtimeLifecycle = .active then
        .error (.storeWriteVerification
          "retained record must be quiesced before history handoff")
      else if retained.zoneRuntime.session.isSome then
        .error (.storeWriteVerification
          "retained operational session must be reconciled before history handoff")
      else if !sameSet (referrers data retainedRecord.zoneHistoryId) [retainedSafetyRecordId] then
        .error (.storeWriteVerification
          "retained history must have exactly one owning safety record")
      else do
        let merged ← mergeZoneHistoryContinuity continuing retained
        let stored ← StoreFields.check
          { data.toStoreFields with
            storeRevision := data.storeRevision + 1
            safetyRecords := data.safetyRecords.set retainedSafetyRecordId
              (retainedRecord.handedTo continuingZoneHistoryId)
            zoneHistories := (data.zoneHistories.set continuingZoneHistoryId merged).erase
              retainedRecord.zoneHistoryId }
        .ok (some stored)

/-! ## Snapshots without a predecessor -/

/-- The snapshot of `async_first_initialize`. -/
def firstSnapshot (generationId : String) : Except PyError StoreData :=
  StoreFields.check
    { generationId
      storeRevision := 1
      run := ⟨none, none⟩
      zoneHistories := Dict.empty
      safetyRecords := Dict.empty }

variable (py : PyRuntime) (integrityId : String → String → String → String)

/-- The history that stands for a zone whose stored state was lost: in FAULT, with the
daily budget spent. -/
def lostHistory (generationId zoneId : String) (maxDaily : Seconds) (detectionDateLocal : LocalDate) :
    ZoneHistory where
  zoneHistoryId := integrityId generationId zoneId "zone-history"
  activeSubentryId := none
  previousSubentryIds := [zoneId]
  lastSessionEndUtc := none
  lastAutoSessionStartUtc := none
  zoneRuntime :=
    { enabled := true
      state := .fault
      zoneFault := none
      secondaryFault := none
      sensorIdentity := ⟨none, none⟩
      lastSessionSummary := none
      session := none }
  daily := some
    { dateLocal := detectionDateLocal
      runtimeS := maxDaily
      conservativeUnattributedRuntimeS := 0
      contributions :=
        [{ accountingContributionId := integrityId generationId zoneId
            ("integrity-daily:" ++ py.dateIsoformat detectionDateLocal)
           sourceSafetyRecordId := zoneId
           startUtc := none
           endUtc := none
           runtimeS := maxDaily
           runtimeEstimated := true
           localDate := some detectionDateLocal }] }

/-- The record of a zone whose actuator is no longer known. -/
def lostRecord (generationId zoneId : String) : SafetyRecord where
  safetyRecordId := zoneId
  zoneId := zoneId
  activeSubentryId := none
  previousSubentryIds := [zoneId]
  safetyLineageId := integrityId generationId zoneId "safety-lineage"
  zoneHistoryId := integrityId generationId zoneId "zone-history"
  historicalZoneHistoryIds := []
  runtimeLifecycle := .deletePending
  appliedConfig := none
  actuatorIdentity :=
    { registryEntryId := none
      lastKnownEntityId := none
      domain := none
      identityStatus := .missing
      offService := none
      confirmTimeoutS := none }
  blockerReasons := [.actuatorNotProvenOff]
  possibleFlowOwner := none
  identityIncident := some ⟨.migrationUnresolved,
    "runtime Store integrity was reconstructed without durable identity"⟩
  actuatorFault := some .restoredFromUnsafeState
  acknowledgementRequired := true

/-- `float` of a configured budget. -/
def floatBudget (maxDaily : Int) : Except DecodeError Seconds :=
  match py.floatOfInt maxDaily with
  | some seconds => .ok seconds
  | none => .error .overflow

/-- The snapshot of `async_reconstruct_after_integrity_loss`. -/
def reconstructedSnapshot (generationId : String) (zoneBudgets : Dict String Int)
    (detectionDateLocal : LocalDate) : Except DecodeError StoreData := do
  let maps ← zoneBudgets.entries.foldlM
    (fun (maps : Dict String SafetyRecord × Dict String ZoneHistory) (zone : String × Int) => do
      let maxDaily ← floatBudget py zone.2
      let history := lostHistory py integrityId generationId zone.1 maxDaily detectionDateLocal
      .ok (maps.1.set zone.1 (lostRecord integrityId generationId zone.1),
        maps.2.set history.zoneHistoryId history))
    (Dict.empty, Dict.empty)
  (StoreFields.mk generationId 1 ⟨none, none⟩ maps.2 maps.1).check.mapError DecodeError.ofPyError

/-! ## What a transaction over a snapshot makes of it -/

/-- The next revision of the same generation. -/
structure Succeeds (before after : StoreData) : Prop where
  generation : after.generationId = before.generationId
  revision : after.storeRevision = before.storeRevision + 1

variable {data data' : StoreData}

theorem Succeeds.of_check {fields : StoreFields} (checked : fields.check = .ok data')
    (generation : fields.generationId = data.generationId)
    (revision : fields.storeRevision = data.storeRevision + 1) : Succeeds data data' := by
  have same := StoreFields.check_eq_ok_iff.mp checked
  exact ⟨by rw [same, generation], by rw [same, revision]⟩

theorem beginNewRun_succeeds {runId : String} (begun : beginNewRun data runId = .ok data') :
    Succeeds data data' :=
  Succeeds.of_check begun rfl rfl

theorem markCleanShutdown_succeeds (marked : markCleanShutdown data = .ok data') :
    Succeeds data data' :=
  Succeeds.of_check marked rfl rfl

theorem rebaseSoakingOwnerForRecord_succeeds {safetyRecordId runId : String}
    (rebased : rebaseSoakingOwnerForRecord data safetyRecordId runId = .ok data') :
    Succeeds data data' := by
  simp only [rebaseSoakingOwnerForRecord] at rebased
  split at rebased
  · cases rebased
  · split at rebased
    · cases rebased
    · split at rebased
      · cases rebased
      · exact Succeeds.of_check rebased rfl rfl

theorem mergeZoneHistoryForRecord_succeeds {continuing retained : String}
    (merged : mergeZoneHistoryForRecord data continuing retained = .ok (some data')) :
    Succeeds data data' := by
  simp only [mergeZoneHistoryForRecord] at merged
  split at merged
  · cases merged
  · cases merged
  · split at merged
    · cases merged
    · split at merged
      · cases merged
      · split at merged
        · cases merged
        · split at merged
          · cases merged
          · split at merged
            · cases merged
            · obtain ⟨history, -, checking⟩ := Except.bind_eq_ok_iff.mp merged
              obtain ⟨stored, checked, made⟩ := Except.bind_eq_ok_iff.mp checking
              obtain rfl : stored = data' := by simpa using made
              exact Succeeds.of_check checked rfl rfl

/-- Nothing is handed over only to the history that the record refers to already. -/
theorem mergeZoneHistoryForRecord_unchanged {continuing retained : String}
    (merged : mergeZoneHistoryForRecord data continuing retained = .ok none) :
    ∃ record, data.safetyRecords.get? retained = some record ∧
      record.zoneHistoryId = continuing := by
  simp only [mergeZoneHistoryForRecord] at merged
  split at merged
  · cases merged
  · cases merged
  · rename_i record _ held
    split at merged
    · rename_i same
      exact ⟨record, held, same⟩
    · split at merged
      · cases merged
      · split at merged
        · cases merged
        · split at merged
          · cases merged
          · split at merged
            · cases merged
            · obtain ⟨history, -, checking⟩ := Except.bind_eq_ok_iff.mp merged
              obtain ⟨stored, -, made⟩ := Except.bind_eq_ok_iff.mp checking
              simp at made

theorem updateControllerRuntime_succeeds {safetyRecordId zoneHistoryId : String}
    {update : ControllerUpdate}
    (updated : updateControllerRuntime data safetyRecordId zoneHistoryId update = .ok data') :
    Succeeds data data' := by
  obtain ⟨record, history, faults, -, -, -, -, stored⟩ :=
    updateControllerRuntime_eq_ok_iff.mp updated
  exact ⟨by rw [stored]; rfl, by rw [stored]; rfl⟩

theorem acknowledgeActuatorFault_succeeds {safetyRecordId safetyLineageId : String}
    {expectedFault : FaultCode}
    (acknowledged : acknowledgeActuatorFault data safetyRecordId safetyLineageId expectedFault =
      .ok data') : Succeeds data data' := by
  simp only [acknowledgeActuatorFault] at acknowledged
  split at acknowledged
  · cases acknowledged
  · split at acknowledged
    · cases acknowledged
    · exact Succeeds.of_check acknowledged rfl rfl

theorem acknowledgeRemovedActuator_succeeds {safetyRecordId safetyLineageId registryEntryId : String}
    {acknowledgedAtUtc : Instant}
    (acknowledged : acknowledgeRemovedActuator data safetyRecordId safetyLineageId registryEntryId
      acknowledgedAtUtc = .ok data') : Succeeds data data' := by
  simp only [acknowledgeRemovedActuator] at acknowledged
  split at acknowledged
  · cases acknowledged
  · split at acknowledged
    · cases acknowledged
    · exact Succeeds.of_check acknowledged rfl rfl

theorem reconcile_succeeds
    {mutator : StoreData → Except PyError (Dict String SafetyRecord × Dict String ZoneHistory)}
    (reconciled : reconcile data mutator = .ok data') : Succeeds data data' := by
  simp only [reconcile] at reconciled
  split at reconciled
  · cases reconciled
  · exact Succeeds.of_check reconciled rfl rfl

theorem setRecordBlocker_succeeds {safetyRecordId : String} {reason : BlockerReason}
    {active : Bool}
    (blocked : setRecordBlocker data safetyRecordId reason active = .ok (some data')) :
    Succeeds data data' := by
  cases held : data.safetyRecords.get? safetyRecordId with
  | none => simp [setRecordBlocker, held] at blocked
  | some record =>
    rcases setRecordBlocker_total reason active held with ⟨unchanged, -⟩ | ⟨stored, saved, made⟩
    · rw [unchanged] at blocked
      cases blocked
    · rw [saved] at blocked
      obtain rfl : stored = data' := by simpa using blocked
      exact ⟨by rw [made]; rfl, by rw [made]; rfl⟩

/-- Nothing is written only when the record lists exactly the requested blockers. -/
theorem setRecordBlocker_unchanged {safetyRecordId : String} {reason : BlockerReason}
    {active : Bool} (blocked : setRecordBlocker data safetyRecordId reason active = .ok none) :
    ∃ record, data.safetyRecords.get? safetyRecordId = some record ∧
      (record.withBlocker reason active).blockerReasons = record.blockerReasons := by
  cases held : data.safetyRecords.get? safetyRecordId with
  | none => simp [setRecordBlocker, held] at blocked
  | some record =>
    rcases setRecordBlocker_total reason active held with ⟨-, same⟩ | ⟨stored, saved, -⟩
    · exact ⟨record, rfl, same⟩
    · rw [saved] at blocked
      cases blocked

/-- A snapshot without a predecessor is the first revision of the store's generation. -/
theorem revision_of_firstSnapshot {generationId : String}
    (made : firstSnapshot generationId = .ok data) :
    data.generationId = generationId ∧ data.storeRevision = 1 := by
  have same := StoreFields.check_eq_ok_iff.mp made
  exact ⟨by rw [same], by rw [same]⟩

theorem revision_of_reconstructedSnapshot {py : PyRuntime}
    {integrityId : String → String → String → String} {generationId : String}
    {zoneBudgets : Dict String Int} {detectionDateLocal : LocalDate}
    (made : reconstructedSnapshot py integrityId generationId zoneBudgets detectionDateLocal =
      .ok data) :
    data.generationId = generationId ∧ data.storeRevision = 1 := by
  obtain ⟨maps, -, checked⟩ := Except.bind_eq_ok_iff.mp made
  have same := check_mapError_eq_ok_iff.mp checked
  exact ⟨by rw [same], by rw [same]⟩

end MoistureLoop
