import MoistureLoop.Store.Operations

/-! # Updates keep a store consistent

A write that keeps the identities of the record and history it replaces can only
fail the checks of the replaced values themselves.  For controller writes that
leaves two conditions: the fault pair is storable and the daily counter covers
the contributions already recorded. -/

namespace MoistureLoop

open Checked (Holds)

/-- `record'` keeps what other records and histories refer to. -/
structure SafetyRecord.SameIdentity (record record' : SafetyRecord) : Prop where
  safetyRecordId : record'.safetyRecordId = record.safetyRecordId
  safetyLineageId : record'.safetyLineageId = record.safetyLineageId
  activeSubentryId : record'.activeSubentryId = record.activeSubentryId
  zoneHistoryId : record'.zoneHistoryId = record.zoneHistoryId
  runtimeLifecycle : record'.runtimeLifecycle = record.runtimeLifecycle

/-- `history'` keeps its owner and adds no contribution. -/
structure ZoneHistory.SameIdentity (history history' : ZoneHistory) : Prop where
  zoneHistoryId : history'.zoneHistoryId = history.zoneHistoryId
  activeSubentryId : history'.activeSubentryId = history.activeSubentryId
  contributions : ∀ contribution ∈ history'.contributions, contribution ∈ history.contributions

/-- A value looked up after `set` was written now or was there before. -/
private theorem get?_set_cases {V : Type} {d : Dict String V} {k k' : String} {v w : V}
    (found : (d.set k v).get? k' = some w) :
    (k' = k ∧ w = v) ∨ (k' ≠ k ∧ d.get? k' = some w) := by
  rw [Dict.get?_set] at found
  by_cases same : k' = k
  · simp only [same, if_true, Option.some.injEq] at found
    exact .inl ⟨same, found.symm⟩
  · simp only [same, if_false] at found
    exact .inr ⟨same, found⟩

namespace StoreFields.Consistent

variable {data : StoreFields} (consistent : data.Consistent)

include consistent

theorem nextRevision : ({ data with storeRevision := data.storeRevision + 1 }).Consistent :=
  { consistent with revision := by simp }

theorem setRecord {k : String} {record : SafetyRecord} (record' : SafetyRecord)
    (found : data.safetyRecords.get? k = some record) (same : record.SameIdentity record')
    (valid : Holds record'.guards) :
    ({ data with safetyRecords := data.safetyRecords.set k record' }).Consistent := by
  -- Every identity read from the new map was in the old map under the same key.
  have old : ∀ {key : String} {value : SafetyRecord},
      (data.safetyRecords.set k record').get? key = some value →
      ∃ before, data.safetyRecords.get? key = some before ∧ before.SameIdentity value := by
    intro key value present
    obtain ⟨rfl, rfl⟩ | ⟨-, present⟩ := get?_set_cases present
    · exact ⟨record, found, same⟩
    · exact ⟨value, present, rfl, rfl, rfl, rfl, rfl⟩
  exact { consistent with
    records := by
      intro key value present
      obtain ⟨-, rfl⟩ | ⟨-, present⟩ := get?_set_cases present
      · exact valid
      · exact consistent.records key value present
    recordKey := by
      intro key value present
      obtain ⟨before, present, kept⟩ := old present
      exact kept.safetyRecordId.trans (consistent.recordKey key before present)
    lineage := by
      intro key key' value value' left right equal
      obtain ⟨before, left, kept⟩ := old left
      obtain ⟨before', right, kept'⟩ := old right
      refine consistent.lineage key key' before before' left right ?_
      rw [← kept.safetyLineageId, ← kept'.safetyLineageId, equal]
    recordSubentry := by
      intro key key' value value' subentry left right owns owns'
      obtain ⟨before, left, kept⟩ := old left
      obtain ⟨before', right, kept'⟩ := old right
      refine consistent.recordSubentry key key' before before' subentry left right ?_ ?_
      · rw [← kept.activeSubentryId, owns]
      · rw [← kept'.activeSubentryId, owns']
    recordHistory := by
      intro key value present
      obtain ⟨before, present, kept⟩ := old present
      obtain ⟨history, referenced, active⟩ := consistent.recordHistory key before present
      refine ⟨history, by rw [kept.zoneHistoryId, referenced], fun live => ?_⟩
      rw [kept.activeSubentryId]
      exact active (kept.runtimeLifecycle ▸ live)
    sessionOwner := by
      intro key history persisted present held
      obtain ⟨owner, known, owned⟩ := consistent.sessionOwner key history persisted present held
      by_cases replaced : persisted.ownerSafetyRecordId = k
      · refine ⟨record', by simp [replaced], ?_⟩
        rw [replaced, found] at known
        obtain rfl := Option.some.inj known
        rw [same.zoneHistoryId, owned]
      · exact ⟨owner, by rw [Dict.get?_set_of_ne _ _ replaced, known], owned⟩
    contributionSource := by
      intro key history contribution present member
      have known := consistent.contributionSource key history contribution present member
      rw [Dict.isSome_get?_iff] at known ⊢
      exact Dict.mem_keys_set.mpr (.inr known) }

/-- Replacing a history by one with the same identity whose session is owned. -/
theorem setHistory {k : String} {history : ZoneHistory} (history' : ZoneHistory)
    (found : data.zoneHistories.get? k = some history) (same : history.SameIdentity history')
    (valid : Holds history'.guards)
    (owned : ∀ persisted, history'.zoneRuntime.session = some persisted →
      ∃ owner, data.safetyRecords.get? persisted.ownerSafetyRecordId = some owner ∧
        owner.zoneHistoryId = history.zoneHistoryId) :
    ({ data with zoneHistories := data.zoneHistories.set k history' }).Consistent := by
  have old : ∀ {key : String} {value : ZoneHistory},
      (data.zoneHistories.set k history').get? key = some value →
      ∃ before, data.zoneHistories.get? key = some before ∧ before.SameIdentity value := by
    intro key value present
    obtain ⟨rfl, rfl⟩ | ⟨-, present⟩ := get?_set_cases present
    · exact ⟨history, found, same⟩
    · exact ⟨value, present, rfl, rfl, fun _ member => member⟩
  exact { consistent with
    histories := by
      intro key value present
      obtain ⟨-, rfl⟩ | ⟨-, present⟩ := get?_set_cases present
      · exact valid
      · exact consistent.histories key value present
    historyKey := by
      intro key value present
      obtain ⟨before, present, kept⟩ := old present
      exact kept.zoneHistoryId.trans (consistent.historyKey key before present)
    historySubentry := by
      intro key key' value value' subentry left right owns owns'
      obtain ⟨before, left, kept⟩ := old left
      obtain ⟨before', right, kept'⟩ := old right
      refine consistent.historySubentry key key' before before' subentry left right ?_ ?_
      · rw [← kept.activeSubentryId, owns]
      · rw [← kept'.activeSubentryId, owns']
    recordHistory := by
      intro key record present
      obtain ⟨referenced, known, active⟩ := consistent.recordHistory key record present
      by_cases replaced : record.zoneHistoryId = k
      · refine ⟨history', by simp [replaced], fun live => ?_⟩
        rw [replaced, found] at known
        obtain rfl := Option.some.inj known
        rw [same.activeSubentryId, active live]
      · exact ⟨referenced, by rw [Dict.get?_set_of_ne _ _ replaced, known], active⟩
    sessionOwner := by
      intro key value persisted present held
      obtain ⟨-, rfl⟩ | ⟨-, present⟩ := get?_set_cases present
      · obtain ⟨owner, known, kept⟩ := owned persisted held
        exact ⟨owner, known, by rw [kept, same.zoneHistoryId]⟩
      · exact consistent.sessionOwner key value persisted present held
    contributionSource := by
      intro key value contribution present member
      obtain ⟨before, present, kept⟩ := old present
      exact consistent.contributionSource key before contribution present
        (kept.contributions contribution member)
    contributionHistory := by
      intro key key' value value' id left right member member'
      obtain ⟨before, left, kept⟩ := old left
      obtain ⟨before', right, kept'⟩ := old right
      obtain ⟨contribution, listed, rfl⟩ := List.mem_map.mp member
      obtain ⟨contribution', listed', equal⟩ := List.mem_map.mp member'
      exact consistent.contributionHistory key key' before before' _ left right
        (List.mem_map_of_mem (kept.contributions _ listed))
        (equal ▸ List.mem_map_of_mem (kept'.contributions _ listed')) }

end StoreFields.Consistent

/-! ## Controller writes -/

/-- No sensor or configuration fault is both primary and secondary. -/
def ControllerUpdate.FaultsStorable (update : ControllerUpdate) : Prop :=
  ∀ fault, fault.isZoneFault = true → update.activeFault = some fault →
    update.secondaryFault ≠ some fault

/-- The counter is no less than the contributions recorded for the same day. -/
def DailyStorable (recorded : Option ZoneDailyRuntime) (daily : Option DailyRuntime) : Prop :=
  ∀ counter, daily = some counter → 0 ≤ counter.runtimeS ∧
    ∀ day, recorded = some day → day.dateLocal = counter.dateLocal →
      knownRuntime day.contributions ≤ counter.runtimeS

theorem knownRuntime_nonneg {contributions : List AccountingContribution}
    (valid : ∀ contribution ∈ contributions, Holds contribution.guards) :
    0 ≤ knownRuntime contributions := by
  refine List.sum_nonneg fun seconds member => ?_
  obtain ⟨contribution, listed, rfl⟩ := List.mem_map.mp member
  have checked := valid contribution listed
  simp only [AccountingContribution.guards, Checked.holds_cons, decide_eq_false_iff_not,
    not_lt] at checked
  exact checked.2.1

theorem holds_mergedDaily_iff {recorded : Option ZoneDailyRuntime} {daily : Option DailyRuntime}
    (valid : ∀ day, recorded = some day → Holds day.guards) :
    (∀ merged, mergeControllerDailyRuntime recorded daily = some merged → Holds merged.guards) ↔
      DailyStorable recorded daily := by
  cases daily with
  | none => simp [mergeControllerDailyRuntime, DailyStorable]
  | some counter =>
    cases matched : recorded.filter fun day => day.dateLocal = counter.dateLocal with
    | none =>
      have noOther : ∀ day, recorded = some day → day.dateLocal ≠ counter.dateLocal := by
        rintro day rfl same
        simp [Option.filter, same] at matched
      simp only [mergeControllerDailyRuntime, matched, Option.map_some, Option.some.injEq,
        forall_eq', ZoneDailyRuntime.guards, DailyStorable, Checked.holds_append,
        Checked.holds_cons, Checked.holds_nil, List.flatMap_nil, decide_eq_false_iff_not, not_lt,
        and_true]
      constructor
      · rintro ⟨nonneg, -⟩
        exact ⟨nonneg, fun day found same => absurd same (noOther day found)⟩
      · rintro ⟨nonneg, -⟩
        exact ⟨nonneg, nonneg, le_refl _, by simp [reusesContributionId], by simp,
          by simpa [knownRuntime] using nonneg, by simp⟩
    | some day =>
      obtain ⟨rfl, same⟩ : recorded = some day ∧ day.dateLocal = counter.dateLocal := by
        cases recorded with
        | none => simp at matched
        | some other =>
          simp only [Option.filter_some] at matched
          split at matched
          · obtain rfl := Option.some.inj matched
            exact ⟨rfl, by simp_all⟩
          · cases matched
      have checked := valid day rfl
      simp only [ZoneDailyRuntime.guards, Checked.holds_append, Checked.holds_cons,
        Checked.holds_flatMap, Checked.holds_nil, decide_eq_false_iff_not, not_lt,
        and_true] at checked
      obtain ⟨⟨-, -, -, reused, distinct, -, dated⟩, each⟩ := checked
      have known := knownRuntime_nonneg each
      simp only [mergeControllerDailyRuntime, matched, Option.map_some, Option.some.injEq,
        forall_eq', ZoneDailyRuntime.guards, DailyStorable, Checked.holds_append,
        Checked.holds_cons, Checked.holds_flatMap, Checked.holds_nil, decide_eq_false_iff_not,
        not_lt, and_true]
      rw [← same]
      constructor
      · rintro ⟨⟨nonneg, -, -, -, -, covered, -⟩, -⟩
        exact ⟨nonneg, fun _ => covered⟩
      · rintro ⟨nonneg, covered⟩
        have covered := covered rfl
        exact ⟨⟨nonneg, le_max_left _ _, max_le nonneg (by linarith), reused, distinct, covered,
          dated⟩, each⟩

/-- The partition separates the two persisted owners of the fault pair. -/
theorem partitionControllerFaults_ok {primary secondary : Option FaultCode}
    {faults : FaultPartition} (parted : partitionControllerFaults primary secondary = .ok faults) :
    (∀ fault, faults.actuatorFault = some fault → fault.isActuatorFault = true) ∧
    faults.zoneFault = primary.filter FaultCode.isZoneFault ∧
    faults.secondaryZoneFault = secondary.filter FaultCode.isZoneFault := by
  simp only [partitionControllerFaults] at parted
  split at parted
  · cases parted
  · obtain rfl := Except.ok.inj parted
    refine ⟨fun fault head => ?_, rfl, rfl⟩
    exact List.of_mem_filter (List.mem_of_head? head)

theorem ControllerUpdate.holds_record {update : ControllerUpdate} {faults : FaultPartition}
    {record : SafetyRecord}
    (parted : partitionControllerFaults update.activeFault update.secondaryFault = .ok faults)
    (valid : Holds record.guards) : Holds (update.record faults record).guards := by
  have owned := (partitionControllerFaults_ok parted).1
  simp only [SafetyRecord.guards, ControllerUpdate.record, Checked.holds_append,
    Checked.holds_cons] at valid ⊢
  obtain ⟨⟨⟨⟨⟨shadow, identity⟩, incident⟩, ack⟩, ids⟩, named, distinct, current, unique, -, -,
    rest⟩ := valid
  refine ⟨⟨⟨⟨⟨shadow, identity⟩, incident⟩, ack⟩, ids⟩, named, distinct, current, unique, ?_, ?_,
    rest⟩
  · cases latched : faults.actuatorFault with
    | none => rfl
    | some fault => simp [owned fault latched]
  · cases faults.actuatorFault.any FaultCode.requiresUserAck <;> simp

/-- The two stored zone faults coincide exactly when the pair repeats a zone fault. -/
private theorem zonePair_iff {primary secondary : Option FaultCode} :
    ((primary.filter FaultCode.isZoneFault).isSome &&
      primary.filter FaultCode.isZoneFault = secondary.filter FaultCode.isZoneFault) = false ↔
    ∀ fault, fault.isZoneFault = true → primary = some fault → secondary ≠ some fault := by
  constructor
  · rintro distinct fault zonal rfl rfl
    simp [Option.filter, zonal] at distinct
  · intro distinct
    cases primary with
    | none => rfl
    | some first =>
      cases zonal : first.isZoneFault with
      | false => simp [Option.filter, zonal]
      | true =>
        have differs := distinct first zonal rfl
        cases secondary with
        | none => simp [Option.filter, zonal]
        | some second =>
          have differs : first ≠ second := fun equal => differs (by rw [equal])
          cases other : second.isZoneFault <;> simp [Option.filter, zonal, other, differs]

/-- The history written for a controller is valid exactly when its fault pair and
its daily counter are storable. -/
theorem ControllerUpdate.holds_history_iff {update : ControllerUpdate} {faults : FaultPartition}
    {history : ZoneHistory} {safetyRecordId : String} (named : safetyRecordId ≠ "")
    (parted : partitionControllerFaults update.activeFault update.secondaryFault = .ok faults)
    (valid : Holds history.guards) :
    Holds (update.history safetyRecordId faults history).guards ↔
      update.FaultsStorable ∧ DailyStorable history.daily update.daily := by
  obtain ⟨-, zone, secondary⟩ := partitionControllerFaults_ok parted
  have merged := @holds_mergedDaily_iff history.daily update.daily
  simp only [ZoneHistory.guards, ZoneRuntime.guards, Checked.holds_append, Checked.holds_flatMap,
    Option.mem_toList] at valid
  obtain ⟨⟨⟨⟨-, sensor⟩, -⟩, days⟩, ids⟩ := valid
  have pair : (faults.zoneFault.isSome && faults.zoneFault = faults.secondaryZoneFault) = false ↔
      update.FaultsStorable := by
    rw [zone, secondary]
    exact zonePair_iff
  have zoneScoped : (faults.zoneFault.any fun fault => !fault.isZoneFault) = false := by
    rw [zone]
    cases update.activeFault with
    | none => rfl
    | some fault => cases zonal : fault.isZoneFault <;> simp
  have secondaryScoped : (faults.secondaryZoneFault.any fun fault => !fault.isZoneFault) = false := by
    rw [secondary]
    cases update.secondaryFault with
    | none => rfl
    | some fault => cases zonal : fault.isZoneFault <;> simp
  have owner : ((update.session.map (PersistedSession.mk safetyRecordId)).any fun persisted =>
      persisted.ownerSafetyRecordId = "") = false := by
    cases update.session <;> simp [named]
  simp only [ControllerUpdate.history, ZoneHistory.guards, ZoneRuntime.guards,
    Checked.holds_append, Checked.holds_flatMap, Checked.holds_cons, Checked.holds_nil,
    Option.mem_toList, zoneScoped, secondaryScoped, owner, sensor, ids, true_and, and_true]
  rw [← merged days]
  exact and_congr pair Iff.rfl

/-- A controller write keeps every cross reference, so it is stored exactly when its
fault pair and its daily counter are storable. -/
theorem ControllerUpdate.fields_consistent_iff {data : StoreFields} {update : ControllerUpdate}
    {safetyRecordId zoneHistoryId : String} {faults : FaultPartition} {history : ZoneHistory}
    {record : SafetyRecord} (consistent : data.Consistent)
    (foundRecord : data.safetyRecords.get? safetyRecordId = some record)
    (foundHistory : data.zoneHistories.get? zoneHistoryId = some history)
    (owned : record.zoneHistoryId = zoneHistoryId)
    (parted : partitionControllerFaults update.activeFault update.secondaryFault = .ok faults) :
    (update.fields data safetyRecordId zoneHistoryId faults history record).Consistent ↔
      update.FaultsStorable ∧ DailyStorable history.daily update.daily := by
  have recordValid := consistent.records _ _ foundRecord
  have historyValid := consistent.histories _ _ foundHistory
  have named : safetyRecordId ≠ "" := by
    rw [← consistent.recordKey _ _ foundRecord]
    simp only [SafetyRecord.guards, idHistoryGuards, Checked.holds_append,
      Checked.holds_cons, decide_eq_false_iff_not] at recordValid
    exact recordValid.1.2.1
  constructor
  · intro stored
    refine (update.holds_history_iff named parted historyValid).mp ?_
    exact stored.histories zoneHistoryId _ (Dict.get?_set_self _ _ _)
  · intro storable
    have checked := (update.holds_history_iff named parted historyValid).mpr storable
    have written := consistent.setHistory (update.history safetyRecordId faults history)
      foundHistory ⟨rfl, rfl, ?_⟩ checked ?_
    · exact (written.setRecord (update.record faults record) foundRecord ⟨rfl, rfl, rfl, rfl, rfl⟩
        (update.holds_record parted recordValid)).nextRevision
    · intro contribution member
      cases daily : update.daily with
      | none =>
        simp [ZoneHistory.contributions, ControllerUpdate.history, mergeControllerDailyRuntime,
          daily] at member
      | some counter =>
        cases recorded : history.daily with
        | none =>
          simp [ZoneHistory.contributions, ControllerUpdate.history, mergeControllerDailyRuntime,
            daily, recorded] at member
        | some day =>
          by_cases same : day.dateLocal = counter.dateLocal <;>
          simp [ZoneHistory.contributions, ControllerUpdate.history, mergeControllerDailyRuntime,
            daily, recorded, Option.filter, same] at member ⊢
          exact member
    · intro persisted held
      obtain ⟨context, -, rfl⟩ := Option.map_eq_some_iff.mp held
      exact ⟨record, foundRecord, by rw [owned, consistent.historyKey _ _ foundHistory]⟩

/-- What a successful controller write has checked and stored. -/
theorem updateControllerRuntime_eq_ok_iff {data data' : StoreData}
    {safetyRecordId zoneHistoryId : String} {update : ControllerUpdate} :
    updateControllerRuntime data safetyRecordId zoneHistoryId update = .ok data' ↔
      ∃ record history faults, data.safetyRecords.get? safetyRecordId = some record ∧
        data.zoneHistories.get? zoneHistoryId = some history ∧
        record.zoneHistoryId = zoneHistoryId ∧
        partitionControllerFaults update.activeFault update.secondaryFault = .ok faults ∧
        data'.toStoreFields = update.fields data.toStoreFields safetyRecordId zoneHistoryId
          faults history record := by
  unfold updateControllerRuntime
  cases foundRecord : data.safetyRecords.get? safetyRecordId with
  | none => simp
  | some record =>
    cases foundHistory : data.zoneHistories.get? zoneHistoryId with
    | none => simp
    | some history =>
      by_cases owned : record.zoneHistoryId = zoneHistoryId
      · cases parted : partitionControllerFaults update.activeFault update.secondaryFault with
        | error err => simp [owned]
        | ok faults => simp [owned, StoreFields.check_eq_ok_iff]
      · simp [owned]

/-- A controller write whose payload is storable can only fail verification. -/
theorem updateControllerRuntime_error {data : StoreData} {safetyRecordId zoneHistoryId : String}
    {update : ControllerUpdate} {err : PyError}
    (raised : updateControllerRuntime data safetyRecordId zoneHistoryId update = .error err)
    (faults : update.FaultsStorable)
    (daily : ∀ history, data.zoneHistories.get? zoneHistoryId = some history →
      DailyStorable history.daily update.daily) :
    ∃ message, err = .storeWriteVerification message := by
  unfold updateControllerRuntime at raised
  split at raised
  · exact ⟨_, (Except.error.inj raised).symm⟩
  · exact ⟨_, (Except.error.inj raised).symm⟩
  · rename_i record history foundRecord foundHistory
    split at raised
    · exact ⟨_, (Except.error.inj raised).symm⟩
    · rename_i owned
      split at raised
      · rename_i parted
        obtain rfl := Except.error.inj raised
        simp only [partitionControllerFaults] at parted
        split at parted
        · exact ⟨_, (Except.error.inj parted).symm⟩
        · cases parted
      · rename_i parts parted
        have consistent := (update.fields_consistent_iff data.consistent foundRecord foundHistory
          (not_not.mp owned) parted).mpr ⟨faults, daily history foundHistory⟩
        rw [consistent.check] at raised
        cases raised

/-! ## Blocker writes -/

/-- A blocker write of a known record never raises: it saves the changed record, or
the record already lists the requested blockers. -/
theorem setRecordBlocker_total {data : StoreData} {safetyRecordId : String}
    {record : SafetyRecord} (reason : BlockerReason) (active : Bool)
    (found : data.safetyRecords.get? safetyRecordId = some record) :
    (setRecordBlocker data safetyRecordId reason active = .ok none ∧
      (record.withBlocker reason active).blockerReasons = record.blockerReasons) ∨
    ∃ data', setRecordBlocker data safetyRecordId reason active = .ok (some data') ∧
      data'.toStoreFields =
        data.toStoreFields.setRecord safetyRecordId (record.withBlocker reason active) := by
  unfold setRecordBlocker
  simp only [found]
  by_cases unchanged : (record.withBlocker reason active).blockerReasons = record.blockerReasons
  · exact .inl ⟨by rw [if_pos unchanged], unchanged⟩
  · rw [if_neg unchanged]
    have valid := data.consistent.records _ _ found
    have checked : Holds (record.withBlocker reason active).guards := by
      simp only [SafetyRecord.guards, SafetyRecord.withBlocker, Checked.holds_append,
        Checked.holds_cons] at valid ⊢
      obtain ⟨parts, named, distinct, current, -, rest⟩ := valid
      exact ⟨parts, named, distinct, current, by simp [orderBlockers_nodup], rest⟩
    have consistent := (data.consistent.setRecord (record.withBlocker reason active) found
      ⟨rfl, rfl, rfl, rfl, rfl⟩ checked).nextRevision
    exact .inr ⟨⟨_, StoreFields.holds_guards_iff.mpr consistent⟩,
      congrArg (Except.map some) consistent.check, rfl⟩

/-! ## A sample store -/

def sampleShadow (subentryId registryEntryId actuator : String) : AppliedConfigurationShadow where
  subentryId := subentryId
  configFingerprint := "fingerprint"
  entrySnapshotFingerprint := "snapshot"
  appliedGeneration := 1
  normalizedSettings := .ofConfig (sampleConfig "sensor.soil" actuator)
  sensorIdentity := ⟨some "sensor-uuid", "sensor.soil", "sensor"⟩
  actuatorIdentity := ⟨some registryEntryId, actuator, "switch"⟩

def sampleActuatorIdentity (registryEntryId actuator : String) : ActuatorIdentity where
  registryEntryId := some registryEntryId
  lastKnownEntityId := some actuator
  domain := some "switch"
  identityStatus := .registryConfirmed
  offService := some "switch.turn_off"
  confirmTimeoutS := some 30

def sampleRecord (safetyRecordId subentryId zoneHistoryId registryEntryId actuator : String) :
    SafetyRecord where
  safetyRecordId := safetyRecordId
  zoneId := subentryId
  activeSubentryId := some subentryId
  previousSubentryIds := []
  safetyLineageId := "lineage of " ++ safetyRecordId
  zoneHistoryId := zoneHistoryId
  historicalZoneHistoryIds := []
  runtimeLifecycle := .active
  appliedConfig := some (sampleShadow subentryId registryEntryId actuator)
  actuatorIdentity := sampleActuatorIdentity registryEntryId actuator
  blockerReasons := []
  possibleFlowOwner := none
  identityIncident := none
  actuatorFault := none
  acknowledgementRequired := false

/-- The history of a subentry, enabled and idle. -/
def sampleHistory (zoneHistoryId subentryId : String) : ZoneHistory where
  zoneHistoryId := zoneHistoryId
  activeSubentryId := some subentryId
  previousSubentryIds := []
  lastSessionEndUtc := none
  lastAutoSessionStartUtc := none
  zoneRuntime :=
    { enabled := true
      state := .idle
      zoneFault := none
      secondaryFault := none
      sensorIdentity := ⟨some "sensor-uuid", some "sensor.soil"⟩
      lastSessionSummary := none
      session := none }
  daily := some { dateLocal := 0, runtimeS := 0 }

/-- One zone `bed` watering with the switch of record `record-a`. -/
def sampleStore : StoreData where
  generationId := "generation"
  storeRevision := 1
  run := ⟨some "run", none⟩
  zoneHistories := ⟨[("history-a", sampleHistory "history-a" "bed")], by decide +kernel⟩
  safetyRecords :=
    ⟨[("record-a", sampleRecord "record-a" "bed" "history-a" "uuid-a" "switch.a")],
      by decide +kernel⟩
  valid := by decide +kernel

/-- A second zone `lawn` waters with the switch of record `record-b`. -/
def sampleTwoZones : StoreData where
  generationId := "generation"
  storeRevision := 1
  run := ⟨some "run", none⟩
  zoneHistories :=
    ⟨[("history-a", sampleHistory "history-a" "bed"),
      ("history-b", sampleHistory "history-b" "lawn")], by decide +kernel⟩
  safetyRecords :=
    ⟨[("record-a", sampleRecord "record-a" "bed" "history-a" "uuid-a" "switch.a"),
      ("record-b", sampleRecord "record-b" "lawn" "history-b" "uuid-b" "switch.b")],
      by decide +kernel⟩
  valid := by decide +kernel

end MoistureLoop
