import MoistureLoop.Foundations.Dict
import MoistureLoop.Store.Identity

/-! # The schema-2 records of the safety store

Zone histories, actuator safety records and the complete `StoreData`.  A
`StoreData` carries the proof that it passes `validate_store_data` and that
every record and history in it passes its own check, so an inconsistent store
cannot be built. -/

namespace MoistureLoop

open Checked (Holds)

/-- Session under `zone_runtime` with its exact safety-record owner. -/
structure PersistedSession where
  ownerSafetyRecordId : String
  context : SessionContext
  deriving DecidableEq, Repr

structure AccountingContribution where
  accountingContributionId : String
  sourceSafetyRecordId : String
  startUtc : Option Instant
  endUtc : Option Instant
  runtimeS : Seconds
  runtimeEstimated : Bool
  localDate : Option LocalDate := none
  deriving DecidableEq, Repr

def AccountingContribution.guards (contribution : AccountingContribution) :
    List (Bool × String) :=
  [(contribution.accountingContributionId = "" || contribution.sourceSafetyRecordId = "",
      "contribution IDs must be non-empty"),
   (decide (contribution.runtimeS < 0), "contribution runtime_s must be finite and non-negative"),
   (contribution.startUtc.isNone != contribution.endUtc.isNone,
      "contribution interval anchors must both be known or both null"),
   (match contribution.startUtc, contribution.endUtc with
      | some start, some finish => decide (finish < start)
      | _, _ => false,
      "contribution end precedes start")]

/-! ## Daily runtime -/

def knownRuntime (contributions : List AccountingContribution) : Seconds :=
  (contributions.map AccountingContribution.runtimeS).sum

/-- Some contribution ID is used by two different payloads. -/
def reusesContributionId (contributions : List AccountingContribution) : Bool :=
  contributions.any fun left => contributions.any fun right =>
    left.accountingContributionId = right.accountingContributionId && left ≠ right

/-- `deduplicate_accounting_contributions`, in the order of the sorted IDs. -/
def deduplicateAccountingContributions (contributions : List AccountingContribution) :
    Except PyError (List AccountingContribution) :=
  if reusesContributionId contributions then
    .error (.value "accounting contribution ID reused with different payload")
  else
    .ok (contributions.dedup.insertionSort fun left right =>
      left.accountingContributionId ≤ right.accountingContributionId)

/-- Current-day budget plus contribution and audit provenance. -/
structure ZoneDailyRuntime where
  dateLocal : LocalDate
  runtimeS : Seconds
  conservativeUnattributedRuntimeS : Seconds := 0
  contributions : List AccountingContribution := []
  deriving DecidableEq, Repr

def ZoneDailyRuntime.guards (daily : ZoneDailyRuntime) : List (Bool × String) :=
  [(decide (daily.runtimeS < 0), "runtime_s must be finite and non-negative"),
   (decide (daily.conservativeUnattributedRuntimeS < 0),
      "conservative_unattributed_runtime_s must be finite and non-negative"),
   (decide (daily.runtimeS < daily.conservativeUnattributedRuntimeS),
      "unattributed runtime cannot exceed total runtime"),
   (reusesContributionId daily.contributions,
      "accounting contribution ID reused with different payload"),
   (!decide (daily.contributions.map AccountingContribution.accountingContributionId).Nodup,
      "persisted daily contributions must have unique IDs"),
   (decide (daily.runtimeS < knownRuntime daily.contributions),
      "daily runtime cannot be less than its known contributions"),
   (daily.contributions.any fun contribution =>
      contribution.localDate.any fun date => date ≠ daily.dateLocal,
      "contribution local_date disagrees with daily date")]
  ++ daily.contributions.flatMap AccountingContribution.guards

/-! ## Zone histories -/

/-- Sole logical-zone operational persistence authority. -/
structure ZoneRuntime where
  enabled : Bool
  state : ControllerState
  zoneFault : Option FaultCode
  secondaryFault : Option FaultCode
  sensorIdentity : SensorIdentity
  lastSessionSummary : Option SessionSummary
  session : Option PersistedSession
  deriving DecidableEq, Repr

def ZoneRuntime.guards (runtime : ZoneRuntime) : List (Bool × String) :=
  [(runtime.zoneFault.any fun fault => !fault.isZoneFault,
      "zone_fault must be sensor/configuration scoped"),
   (runtime.secondaryFault.any fun fault => !fault.isZoneFault,
      "zone secondary_fault must be sensor/configuration scoped"),
   (runtime.zoneFault.isSome && runtime.zoneFault = runtime.secondaryFault,
      "zone primary and secondary fault must not duplicate")]
  ++ runtime.sensorIdentity.guards
  ++ [(runtime.session.any fun persisted => persisted.ownerSafetyRecordId = "",
      "owner_safety_record_id must be non-empty")]

/-- `_validate_id_history`. -/
def idHistoryGuards (stableId : String) (activeSubentryId : Option String)
    (previousSubentryIds : List String) (context : String) : List (Bool × String) :=
  [(stableId = "", context ++ " stable ID must be non-empty"),
   (activeSubentryId = some "" || previousSubentryIds.any fun value => value = "",
      context ++ " subentry IDs must be non-empty or null"),
   (!decide previousSubentryIds.Nodup, context ++ " previous_subentry_ids must be unique"),
   (activeSubentryId.any fun active => active ∈ previousSubentryIds,
      context ++ " active subentry cannot also be previous")]

/-- Independent logical-zone history and operational authority. -/
structure ZoneHistory where
  zoneHistoryId : String
  activeSubentryId : Option String
  previousSubentryIds : List String
  lastSessionEndUtc : Option Instant
  lastAutoSessionStartUtc : Option Instant
  zoneRuntime : ZoneRuntime
  daily : Option ZoneDailyRuntime
  deriving DecidableEq, Repr

def ZoneHistory.guards (history : ZoneHistory) : List (Bool × String) :=
  history.zoneRuntime.guards ++ history.daily.toList.flatMap ZoneDailyRuntime.guards
  ++ idHistoryGuards history.zoneHistoryId history.activeSubentryId history.previousSubentryIds
    "zone_history"

/-! ## Safety records -/

/-- One canonical mutable actuator-safety record per durable lineage. -/
structure SafetyRecord where
  safetyRecordId : String
  zoneId : String
  activeSubentryId : Option String
  previousSubentryIds : List String
  safetyLineageId : String
  zoneHistoryId : String
  historicalZoneHistoryIds : List String
  runtimeLifecycle : RuntimeLifecycle
  appliedConfig : Option AppliedConfigurationShadow
  actuatorIdentity : ActuatorIdentity
  blockerReasons : List BlockerReason
  possibleFlowOwner : Option PossibleFlowOwner
  identityIncident : Option IdentityIncident
  actuatorFault : Option FaultCode
  acknowledgementRequired : Bool
  removedActuatorAck : Option RemovedActuatorAcknowledgement := none
  deriving DecidableEq, Repr

def SafetyRecord.guards (record : SafetyRecord) : List (Bool × String) :=
  record.appliedConfig.toList.flatMap AppliedConfigurationShadow.guards
  ++ record.actuatorIdentity.guards
  ++ record.identityIncident.toList.flatMap IdentityIncident.guards
  ++ record.removedActuatorAck.toList.flatMap RemovedActuatorAcknowledgement.guards
  ++ idHistoryGuards record.safetyRecordId record.activeSubentryId record.previousSubentryIds
    "safety_record"
  ++ [(record.zoneId = "" || record.safetyLineageId = "" || record.zoneHistoryId = "",
      "safety record identities must be non-empty"),
   (!decide record.historicalZoneHistoryIds.Nodup,
      "historical_zone_history_ids must be unique"),
   (decide (record.zoneHistoryId ∈ record.historicalZoneHistoryIds),
      "current zone_history_id cannot also be historical"),
   (!decide record.blockerReasons.Nodup, "blocker reasons must be unique"),
   (record.actuatorFault.any fun fault => !fault.isActuatorFault,
      "actuator_fault must be actuator/integrity scoped"),
   (record.acknowledgementRequired
      && !record.actuatorFault.any FaultCode.requiresUserAck,
      "acknowledgement requires an acknowledgement-capable actuator fault"),
   (record.removedActuatorAck.isSome && record.runtimeLifecycle = .active,
      "an ACTIVE record cannot carry a removed-actuator acknowledgement"),
   (record.runtimeLifecycle = .active
      && (record.activeSubentryId.isNone || record.appliedConfig.isNone),
      "ACTIVE record requires current subentry and applied shadow"),
   (record.runtimeLifecycle = .active
      && record.appliedConfig.map AppliedConfigurationShadow.subentryId ≠ record.activeSubentryId,
      "applied shadow/current subentry mismatch"),
   (record.runtimeLifecycle = .active && record.actuatorIdentity.identityStatus.unresolved,
      "ACTIVE record requires a resolved actuator identity"),
   (record.runtimeLifecycle ≠ .active && record.activeSubentryId.isSome,
      "non-ACTIVE record cannot own a current subentry")]

/-! ## The complete store -/

structure RunIds where
  activeRunId : Option String
  lastCleanShutdownRunId : Option String
  deriving DecidableEq, Repr

def RunIds.previousRunWasClean (run : RunIds) : Bool :=
  run.activeRunId.isSome && run.activeRunId = run.lastCleanShutdownRunId

structure StoreFields where
  generationId : String
  storeRevision : Nat
  run : RunIds
  zoneHistories : Dict String ZoneHistory
  safetyRecords : Dict String SafetyRecord
  deriving DecidableEq

def activeRecordSubentries (records : Dict String SafetyRecord) : List String :=
  records.values.filterMap SafetyRecord.activeSubentryId

def activeHistorySubentries (histories : Dict String ZoneHistory) : List String :=
  histories.values.filterMap ZoneHistory.activeSubentryId

def recordReferenceGuards (histories : Dict String ZoneHistory) (record : SafetyRecord) :
    List (Bool × String) :=
  match histories.get? record.zoneHistoryId with
  | none => [(true, "safety record references missing zone_history_id")]
  | some history =>
    [(record.runtimeLifecycle = .active && history.activeSubentryId ≠ record.activeSubentryId,
        "ACTIVE safety/history current ownership mismatch")]

def sessionOwnerGuards (records : Dict String SafetyRecord) (history : ZoneHistory) :
    List (Bool × String) :=
  match history.zoneRuntime.session with
  | none => []
  | some persisted =>
    match records.get? persisted.ownerSafetyRecordId with
    | none => [(true, "persisted session owner_safety_record_id does not exist")]
    | some owner =>
      [(owner.zoneHistoryId ≠ history.zoneHistoryId,
          "persisted session owner references a different zone history")]

def ZoneHistory.contributions (history : ZoneHistory) : List AccountingContribution :=
  history.daily.toList.flatMap ZoneDailyRuntime.contributions

def allContributions (histories : Dict String ZoneHistory) : List AccountingContribution :=
  histories.values.flatMap ZoneHistory.contributions

/-- The guards of the contribution walk: `earlier` has been seen already. -/
def contributionGuards (records : Dict String SafetyRecord) :
    List AccountingContribution → List AccountingContribution → List (Bool × String)
  | _, [] => []
  | earlier, contribution :: rest =>
    let reused := earlier.filter fun prior =>
      prior.accountingContributionId = contribution.accountingContributionId
    [((records.get? contribution.sourceSafetyRecordId).isNone,
        "accounting contribution source safety record does not exist"),
     (reused.any fun prior => prior ≠ contribution,
        "conflicting duplicate accounting contribution ID"),
     (!reused.isEmpty, "duplicate accounting contribution ID in Store")]
    ++ contributionGuards records (earlier ++ [contribution]) rest

/-- `validate_store_data`, over the outcome of its two comparisons of map keys with IDs.  The
schema version is fixed by the type. -/
def StoreFields.crossGuards (data : StoreFields) (historyKeys recordKeys : Bool) :
    List (Bool × String) :=
  let own : List (Bool × String) :=
    [(data.generationId = "", "generation_id must be non-empty"),
     (decide (data.storeRevision < 1), "store_revision must be a positive integer"),
     (historyKeys, "zone-history map keys must equal stable IDs"),
     (recordKeys, "safety-record map keys must equal stable IDs"),
     (!decide (data.safetyRecords.values.map SafetyRecord.safetyLineageId).Nodup,
        "safety_lineage_id must be globally unique"),
     (!decide (activeRecordSubentries data.safetyRecords).Nodup,
        "current subentry cannot own multiple safety records"),
     (!decide (activeHistorySubentries data.zoneHistories).Nodup,
        "current subentry cannot own multiple zone histories")]
  own ++ data.safetyRecords.values.flatMap (recordReferenceGuards data.zoneHistories)
    ++ data.zoneHistories.values.flatMap (sessionOwnerGuards data.safetyRecords)
    ++ contributionGuards data.safetyRecords [] (allContributions data.zoneHistories)

/-- `validate_store_data` of a store in memory.  The source compares the map keys with the IDs
as sets; the parser and every update write a value under its own ID, so the guard here compares
them entry by entry. -/
def StoreFields.referenceGuards (data : StoreFields) : List (Bool × String) :=
  data.crossGuards (data.zoneHistories.entries.any fun entry => entry.2.zoneHistoryId ≠ entry.1)
    (data.safetyRecords.entries.any fun entry => entry.2.safetyRecordId ≠ entry.1)

/-- The parts are constructed, hence checked, before the whole. -/
def StoreFields.guards (data : StoreFields) : List (Bool × String) :=
  data.zoneHistories.values.flatMap ZoneHistory.guards
    ++ data.safetyRecords.values.flatMap SafetyRecord.guards ++ data.referenceGuards

/-- Canonical complete runtime safety snapshot. -/
structure StoreData extends StoreFields where
  valid : Holds toStoreFields.guards
  deriving DecidableEq

/-! ## Checked construction -/

/-- Construct a checked dataclass value: the first violated guard is a `ValueError`. -/
def checkValue {α : Type} (guards : α → List (Bool × String)) (value : α) : Except PyError α :=
  (Checked.raiseFirst PyError.value (guards value)).map fun _ => value

theorem checkValue_eq_ok_iff {α : Type} {guards : α → List (Bool × String)} {value checked : α} :
    checkValue guards value = .ok checked ↔ Holds (guards value) ∧ checked = value := by
  rw [← @Checked.raiseFirst_eq_ok_iff _ PyError.value, checkValue]
  cases Checked.raiseFirst PyError.value (guards value) <;> simp [Except.map, eq_comm]

/-- `StoreData(...)`. -/
def StoreFields.check (data : StoreFields) : Except PyError StoreData :=
  match checked : Checked.raiseFirst PyError.value data.guards with
  | .ok () => .ok ⟨data, Checked.raiseFirst_eq_ok_iff.mp checked⟩
  | .error err => .error err

theorem StoreFields.check_eq_ok_iff {data : StoreFields} {checked : StoreData} :
    data.check = .ok checked ↔ checked.toStoreFields = data := by
  unfold StoreFields.check
  split
  · rename_i raised
    constructor
    · rintro ⟨rfl⟩
      rfl
    · rintro rfl
      rfl
  · rename_i err raised
    constructor
    · intro impossible
      cases impossible
    · rintro rfl
      have holds := (@Checked.raiseFirst_eq_ok_iff _ PyError.value _).mpr checked.valid
      rw [holds] at raised
      cases raised

end MoistureLoop
