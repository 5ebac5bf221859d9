import MoistureLoop.StateMachine.Decide
import MoistureLoop.Store.ReadBack

/-! # Migration of the schema-1 store

The strict reader of the historical schema and `migrate_schema1_to_schema2`.  A migration
that succeeds carries every zone over with its faults, anchors, runtime and session; the
hazard of a zone is carried over in exactly the stores in which each zone with unresolved
flow still has an unfinished pulse. -/

namespace MoistureLoop

open Checked (Holds)
open Payload (field)

/-! ## The historical records -/

/-- One schema-1 zone. -/
structure ZoneRecord where
  state : ControllerState
  enabled : Bool
  activeFault : Option FaultCode := none
  secondaryFault : Option FaultCode := none
  lastSessionEndUtc : Option Instant := none
  lastAutoSessionStartUtc : Option Instant := none
  daily : Option DailyRuntime := none
  lastSessionSummary : Option SessionSummary := none
  session : Option SessionContext := none
  deriving DecidableEq

/-- A parsed schema-1 snapshot; the version is fixed by the type. -/
structure Schema1StoreData where
  generationId : String
  storeRevision : ℕ
  run : RunIds
  zones : Dict String ZoneRecord
  deriving DecidableEq

/-- `LEGACY_STORE_SCHEMA_VERSION`. -/
def legacyStoreSchemaVersion : ℕ := 1

section Reader

variable (py : PyRuntime)

/-- `_require`. -/
def requireKey (raw : Payload) (key context : String) : Except DecodeError Payload := do
  let entries ← entriesOf raw (context ++ " must be an object")
  if key ∈ entries.map Prod.fst then .ok (field entries key)
  else .error (.malformed (context ++ " is missing " ++ py.repr (.str key)))

/-- An `except ValueError` that also replaces the messages of the store errors. -/
def rewrapAll {α : Type} (context : String) : Except DecodeError α → Except DecodeError α
  | .error (.value message) | .error (.malformed message) | .error (.futureVersion message) =>
    .error (.malformed (context ++ message))
  | result => result

/-- The `daily` object of a schema-1 zone. -/
def legacyDailyFromDict (raw : Payload) : Except DecodeError DailyRuntime := do
  let dateRaw ← requireKey py raw "date_local" "zone.daily"
  let runtimeRaw ← requireKey py raw "runtime_s" "zone.daily"
  rewrapAll "zone.daily invalid: " do
    let _ ← requireExactKeys py raw ["date_local", "runtime_s"] "zone.daily"
    let text ← textOf dateRaw "date_local must be a string"
    let dateLocal ← parseDate py text
    let runtimeS ← strictFloat py runtimeRaw "zone.daily.runtime_s"
    return ⟨dateLocal, runtimeS⟩

/-- The state of a schema-1 zone. -/
def legacyState (raw : Payload) : Except DecodeError ControllerState :=
  match enumOf py ControllerState raw with
  | .ok state => .ok state
  | .error _ => .error (.malformed ("zone.state has unknown value " ++ py.repr raw))

/-- `zone_record_from_dict`. -/
def zoneRecordFromDict (raw : Payload) : Except DecodeError ZoneRecord := do
  let data ← requireExactKeys py raw
    ["state", "enabled", "active_fault", "secondary_fault", "last_session_end_utc",
     "last_auto_session_start_utc", "daily", "last_session_summary", "session"] "zone"
  let state ← legacyState py (field data "state")
  let enabled ← strictBool (field data "enabled") "zone.enabled"
  let daily ← objectOrNull (legacyDailyFromDict py) (field data "daily")
  let activeFault ← enumOrNone py FaultCode (field data "active_fault") "zone.active_fault"
  let secondaryFault ←
    enumOrNone py FaultCode (field data "secondary_fault") "zone.secondary_fault"
  let lastSessionEndUtc ←
    isoToDt py (field data "last_session_end_utc") "zone.last_session_end_utc"
  let lastAutoSessionStartUtc ←
    isoToDt py (field data "last_auto_session_start_utc") "zone.last_auto_session_start_utc"
  let lastSessionSummary ←
    objectOrNull (summaryFromDict py) (field data "last_session_summary")
  let session ← objectOrNull (sessionFromDict py) (field data "session")
  return ZoneRecord.mk state enabled activeFault secondaryFault lastSessionEndUtc
    lastAutoSessionStartUtc daily lastSessionSummary session

/-- One entry of the schema-1 zone map. -/
def legacyZoneFromDict (zoneId : String) (raw : Payload) : Except DecodeError ZoneRecord :=
  if zoneId = "" then .error (.malformed "store.zones keys must be non-empty strings")
  else zoneRecordFromDict py raw

/-- The version check of `schema1_store_data_from_dict`. -/
def requireLegacyVersion (raw : Payload) : Except DecodeError Unit :=
  match raw with
  | .int version =>
    if (legacyStoreSchemaVersion : Int) < version then
      .error (.futureVersion ("store schema " ++ toString version ++ " is newer than "
        ++ toString legacyStoreSchemaVersion))
    else if version < legacyStoreSchemaVersion then
      .error (.malformed ("store schema " ++ toString version ++ " is invalid"))
    else .ok ()
  | _ => .error (.malformed "store.version must be an integer")

def positiveRevision (raw : Payload) : Except DecodeError ℕ :=
  let refused : Except DecodeError ℕ :=
    .error (.malformed "store.store_revision must be a positive integer")
  match raw with
  | .int value => if value < 1 then refused else .ok value.toNat
  | _ => refused

def runIdOrNull (raw : Payload) (name : String) : Except DecodeError (Option String) :=
  let refused : Except DecodeError (Option String) :=
    .error (.malformed ("store.run." ++ name ++ " must be a non-empty string or null"))
  match raw with
  | .null => .ok none
  | .str text => if text = "" then refused else .ok (some text)
  | _ => refused

/-- `schema1_store_data_from_dict`. -/
def schema1StoreDataFromDict (raw : Payload) : Except DecodeError Schema1StoreData := do
  let data ← requireExactKeys py raw
    ["version", "generation_id", "store_revision", "run", "zones"] "store"
  requireLegacyVersion (field data "version")
  let generationId ← strictString (field data "generation_id") "store.generation_id"
  let storeRevision ← positiveRevision (field data "store_revision")
  let runRaw ← requireExactKeys py (field data "run")
    ["active_run_id", "last_clean_shutdown_run_id"] "store.run"
  let activeRunId ← runIdOrNull (field runRaw "active_run_id") "active_run_id"
  let lastCleanShutdownRunId ←
    runIdOrNull (field runRaw "last_clean_shutdown_run_id") "last_clean_shutdown_run_id"
  let zonesRaw ← entriesOf (field data "zones") "store.zones must be an object"
  let zones ← Dict.ofEntriesM (legacyZoneFromDict py) zonesRaw
  return Schema1StoreData.mk generationId storeRevision ⟨activeRunId, lastCleanShutdownRunId⟩
    zones

end Reader

/-! ## The migration -/

/-- Normalized current-configuration facts for one schema-1 zone. -/
structure MigrationRecordContext where
  activeSubentryId : String
  appliedConfig : AppliedConfigurationShadow
  actuatorIdentity : ActuatorIdentity
  sensorIdentity : SensorIdentity

def MigrationRecordContext.guards (context : MigrationRecordContext) : List (Bool × String) :=
  [(context.activeSubentryId = ""
      || context.appliedConfig.subentryId ≠ context.activeSubentryId,
      "migration context subentry/shadow mismatch"),
   (context.sensorIdentity.lastKnownEntityId
      ≠ some context.appliedConfig.sensorIdentity.lastKnownEntityId,
      "migration context sensor identity/shadow mismatch"),
   (context.actuatorIdentity.lastKnownEntityId
      ≠ some context.appliedConfig.actuatorIdentity.lastKnownEntityId,
      "migration context actuator identity/shadow mismatch")]

/-- `_legacy_has_possible_integration_flow`. -/
def legacyHasPossibleIntegrationFlow (record : ZoneRecord) : Bool :=
  record.session.any SessionContext.openPulse

/-- `_split_schema1_faults`: the actuator fault and the two zone faults. -/
def splitSchema1Faults (primary secondary : Option FaultCode) :
    Except DecodeError (Option FaultCode × Option FaultCode × Option FaultCode) :=
  let actuatorFaults :=
    [primary, secondary].reduceOption.filter FaultCode.isActuatorFault
  if 1 < actuatorFaults.length then
    .error (.malformed
      "schema-1 primary/secondary actuator faults cannot be represented unambiguously")
  else
    .ok (actuatorFaults.head?, primary.filter FaultCode.isZoneFault,
      secondary.filter FaultCode.isZoneFault)

def PersistedSession.guards (session : PersistedSession) : List (Bool × String) :=
  [(session.ownerSafetyRecordId = "", "owner_safety_record_id must be non-empty")]

section Migrate

variable (py : PyRuntime)
-- `_stable_migration_id`: the version-5 UUID of generation, record and kind.
variable (stableMigrationId : String → String → String → String)

/-- The session of a schema-1 zone under its record. -/
def migrateSession (safetyRecordId : String) (session : Option SessionContext) :
    Except DecodeError (Option PersistedSession) :=
  match session with
  | none => .ok none
  | some context =>
    (construct PersistedSession.guards ⟨safetyRecordId, context⟩).map some

/-- The day of a schema-1 zone with its one contribution. -/
def migrateDaily (generationId safetyRecordId : String) (daily : Option DailyRuntime) :
    Except DecodeError (Option ZoneDailyRuntime) :=
  match daily with
  | none => .ok none
  | some old => do
    let contribution ← construct AccountingContribution.guards
      { accountingContributionId := stableMigrationId generationId safetyRecordId
          ("schema1-daily:" ++ py.dateIsoformat old.dateLocal)
        sourceSafetyRecordId := safetyRecordId
        startUtc := none
        endUtc := none
        runtimeS := old.runtimeS
        runtimeEstimated := true
        localDate := some old.dateLocal }
    let migrated ← construct ZoneDailyRuntime.guards
      { dateLocal := old.dateLocal
        runtimeS := old.runtimeS
        conservativeUnattributedRuntimeS := 0
        contributions := [contribution] }
    return some migrated

/-- The identity, lifecycle and blockers that a zone migrates with. -/
structure MigratedOwnership where
  activeSubentryId : Option String
  previousSubentryIds : List String
  lifecycle : RuntimeLifecycle
  appliedConfig : Option AppliedConfigurationShadow
  actuatorIdentity : ActuatorIdentity
  sensorIdentity : SensorIdentity
  blockers : List BlockerReason
  incident : Option IdentityIncident

/-- The two branches on the context of a zone: a zone without current configuration becomes
an unresolved tombstone. -/
def migratedOwnership (safetyRecordId : String) (old : ZoneRecord)
    (context : Option MigrationRecordContext) : MigratedOwnership :=
  let flow : List BlockerReason :=
    if legacyHasPossibleIntegrationFlow old then [.integrationOffUnconfirmed] else []
  match context with
  | none =>
    { activeSubentryId := none
      previousSubentryIds := [safetyRecordId]
      lifecycle := .deletePending
      appliedConfig := none
      actuatorIdentity :=
        { registryEntryId := none
          lastKnownEntityId := none
          domain := none
          identityStatus := .missing
          offService := none
          confirmTimeoutS := none }
      sensorIdentity := ⟨none, none⟩
      blockers := .actuatorNotProvenOff :: flow
      incident := some ⟨.migrationUnresolved,
        "schema-1 record absent from supplied current configuration; "
          ++ "durable actuator identity unavailable"⟩ }
  | some context =>
    { activeSubentryId := some context.activeSubentryId
      previousSubentryIds :=
        if context.activeSubentryId ≠ safetyRecordId then [safetyRecordId] else []
      lifecycle := .active
      appliedConfig := some context.appliedConfig
      actuatorIdentity := context.actuatorIdentity
      sensorIdentity := context.sensorIdentity
      blockers := flow
      incident := none }

/-- One round of the migration loop: the record of a zone and its history. -/
def migrateZone (generationId safetyRecordId : String) (old : ZoneRecord)
    (context : Option MigrationRecordContext) :
    Except DecodeError (SafetyRecord × ZoneHistory) := do
  let lineageId := stableMigrationId generationId safetyRecordId "safety-lineage"
  let historyId := stableMigrationId generationId safetyRecordId "zone-history"
  let (actuatorFault, zoneFault, secondaryZoneFault) ←
    splitSchema1Faults old.activeFault old.secondaryFault
  let persistedSession ← migrateSession safetyRecordId old.session
  let daily ← migrateDaily py stableMigrationId generationId safetyRecordId old.daily
  let ownership := migratedOwnership safetyRecordId old context
  let zoneRuntime ← construct ZoneRuntime.guards
    { enabled := old.enabled
      state := old.state
      zoneFault := zoneFault
      secondaryFault := secondaryZoneFault
      sensorIdentity := ownership.sensorIdentity
      lastSessionSummary := old.lastSessionSummary
      session := persistedSession }
  let history ← construct ZoneHistory.guards
    { zoneHistoryId := historyId
      activeSubentryId := ownership.activeSubentryId
      previousSubentryIds := ownership.previousSubentryIds
      lastSessionEndUtc := old.lastSessionEndUtc
      lastAutoSessionStartUtc := old.lastAutoSessionStartUtc
      zoneRuntime := zoneRuntime
      daily := daily }
  let record ← construct SafetyRecord.guards
    { safetyRecordId := safetyRecordId
      zoneId := safetyRecordId
      activeSubentryId := ownership.activeSubentryId
      previousSubentryIds := ownership.previousSubentryIds
      safetyLineageId := lineageId
      zoneHistoryId := historyId
      historicalZoneHistoryIds := []
      runtimeLifecycle := ownership.lifecycle
      appliedConfig := ownership.appliedConfig
      actuatorIdentity := ownership.actuatorIdentity
      blockerReasons := orderBlockers ownership.blockers
      possibleFlowOwner :=
        if legacyHasPossibleIntegrationFlow old then some .integration else none
      identityIncident := ownership.incident
      actuatorFault := actuatorFault
      acknowledgementRequired := actuatorFault.any FaultCode.requiresUserAck }
  return (record, history)

/-- The two maps that the loop fills. -/
abbrev MigratedMaps := Dict String SafetyRecord × Dict String ZoneHistory

/-- One round of the loop enters the record and the history of its zone. -/
def migrateStep (generationId : String) (contexts : Dict String MigrationRecordContext)
    (maps : MigratedMaps) (entry : String × ZoneRecord) : Except DecodeError MigratedMaps :=
  (migrateZone py stableMigrationId generationId entry.1 entry.2 (contexts.get? entry.1)).map
    fun zone => (maps.1.set entry.1 zone.1, maps.2.set zone.2.zoneHistoryId zone.2)

/-- `migrate_schema1_to_schema2`. -/
def migrateSchema1ToSchema2 (legacy : Schema1StoreData)
    (currentRecords : Dict String MigrationRecordContext) : Except DecodeError StoreData :=
  let unknown := currentRecords.keys.filter fun key => key ∉ legacy.zones.keys
  if unknown ≠ [] then
    .error (.malformed ("migration context has unknown schema-1 records: "
      ++ py.repr (.list ((unknown.insertionSort (· ≤ ·)).map .str))))
  else do
    let maps ← legacy.zones.sortedEntries.foldlM
      (migrateStep py stableMigrationId legacy.generationId currentRecords)
      (Dict.empty, Dict.empty)
    rewrap "migrated schema-2 payload invalid: "
      ((StoreFields.mk legacy.generationId (legacy.storeRevision + 1) legacy.run maps.2
        maps.1).check.mapError DecodeError.ofPyError)

end Migrate

/-! ## What a migrated zone keeps -/

structure ZoneKept (safetyRecordId : String) (old : ZoneRecord) (record : SafetyRecord)
    (history : ZoneHistory) : Prop where
  state : history.zoneRuntime.state = old.state
  enabled : history.zoneRuntime.enabled = old.enabled
  faults : ∀ fault, old.activeFault = some fault ∨ old.secondaryFault = some fault ↔
    record.actuatorFault = some fault ∨ history.zoneRuntime.zoneFault = some fault ∨
      history.zoneRuntime.secondaryFault = some fault
  zoneFault : history.zoneRuntime.zoneFault = old.activeFault.filter FaultCode.isZoneFault
  secondaryFault :
    history.zoneRuntime.secondaryFault = old.secondaryFault.filter FaultCode.isZoneFault
  lastSessionEndUtc : history.lastSessionEndUtc = old.lastSessionEndUtc
  lastAutoSessionStartUtc : history.lastAutoSessionStartUtc = old.lastAutoSessionStartUtc
  daily : history.daily.map (fun daily => (daily.dateLocal, daily.runtimeS)) =
    old.daily.map fun daily => (daily.dateLocal, daily.runtimeS)
  summary : history.zoneRuntime.lastSessionSummary = old.lastSessionSummary
  session : history.zoneRuntime.session = old.session.map (PersistedSession.mk safetyRecordId)

/-- A zone that waters, or whose session stays open outside of a soak: an OFF could not be
proven. -/
def ZoneRecord.CarriesUnresolvedFlow (old : ZoneRecord) : Prop :=
  old.state = .watering ∨ (old.session.isSome ∧ old.state ≠ .soaking)

def SafetyRecord.BlocksIntegrationFlow (record : SafetyRecord) : Prop :=
  .integrationOffUnconfirmed ∈ record.blockerReasons ∧
    record.possibleFlowOwner = some .integration

/-- A list of at most one member is its head. -/
theorem head?_eq_some_iff_mem {α : Type} {items : List α} {item : α} (short : items.length ≤ 1) :
    items.head? = some item ↔ item ∈ items := by
  match items, short with
  | [], _ => simp
  | [only], _ => simp [eq_comm]
  | _ :: _ :: _, short => simp at short

/-- Every fault of the pair goes to its one owner. -/
theorem splitSchema1Faults_keeps {primary secondary actuator zone secondaryZone : Option FaultCode}
    (split : splitSchema1Faults primary secondary = .ok (actuator, zone, secondaryZone)) :
    (∀ fault, primary = some fault ∨ secondary = some fault ↔
      actuator = some fault ∨ zone = some fault ∨ secondaryZone = some fault) ∧
    zone = primary.filter FaultCode.isZoneFault ∧
    secondaryZone = secondary.filter FaultCode.isZoneFault := by
  simp only [splitSchema1Faults] at split
  split at split
  · cases split
  · rename_i single
    simp only [Except.ok.injEq, Prod.mk.injEq] at split
    obtain ⟨rfl, rfl, rfl⟩ := split
    refine ⟨fun fault => ?_, rfl, rfl⟩
    -- at most one of the two faults is an actuator fault, every other one is a zone fault
    have actuator : (([primary, secondary].reduceOption.filter FaultCode.isActuatorFault).head? =
        some fault) ↔ (primary = some fault ∨ secondary = some fault) ∧
          fault.isActuatorFault = true := by
      rw [head?_eq_some_iff_mem (not_lt.mp single), List.mem_filter, List.reduceOption_mem_iff,
        List.mem_pair, @eq_comm _ (some fault) primary, @eq_comm _ (some fault) secondary]
    rw [actuator, Option.filter_eq_some_iff, Option.filter_eq_some_iff,
      FaultCode.isZoneFault_eq_not_isActuatorFault]
    cases fault.isActuatorFault <;> simp

variable {py : PyRuntime} {stableMigrationId : String → String → String → String}

theorem migrateSession_eq {safetyRecordId : String} {session : Option SessionContext}
    {migrated : Option PersistedSession}
    (migrates : migrateSession safetyRecordId session = .ok migrated) :
    migrated = session.map (PersistedSession.mk safetyRecordId) := by
  cases session with
  | none => exact (Except.ok.inj migrates).symm
  | some context =>
    cases constructed : construct PersistedSession.guards ⟨safetyRecordId, context⟩ with
    | error err => simp [migrateSession, constructed, Except.map] at migrates
    | ok persisted =>
      obtain ⟨-, rfl⟩ := construct_eq_ok_iff.mp constructed
      simpa [migrateSession, constructed, Except.map, eq_comm] using migrates

theorem migrateDaily_keeps {generationId safetyRecordId : String} {daily : Option DailyRuntime}
    {migrated : Option ZoneDailyRuntime}
    (migrates : migrateDaily py stableMigrationId generationId safetyRecordId daily =
      .ok migrated) :
    migrated.map (fun daily => (daily.dateLocal, daily.runtimeS)) =
      daily.map fun daily => (daily.dateLocal, daily.runtimeS) := by
  cases daily with
  | none =>
    obtain rfl := Except.ok.inj migrates
    rfl
  | some old =>
    simp only [migrateDaily, Except.bind_eq_ok_iff, construct_eq_ok_iff, Except.pure_eq_ok,
      Except.ok.injEq] at migrates
    obtain ⟨contribution, -, day, ⟨-, rfl⟩, rfl⟩ := migrates
    rfl

/-- One round of the loop keeps the zone under its IDs, and records possible flow exactly for
an unfinished pulse. -/
theorem migrateZone_keeps {generationId safetyRecordId : String} {old : ZoneRecord}
    {context : Option MigrationRecordContext} {record : SafetyRecord} {history : ZoneHistory}
    (migrated : migrateZone py stableMigrationId generationId safetyRecordId old context =
      .ok (record, history)) :
    record.zoneHistoryId = stableMigrationId generationId safetyRecordId "zone-history" ∧
    history.zoneHistoryId = stableMigrationId generationId safetyRecordId "zone-history" ∧
    ZoneKept safetyRecordId old record history ∧
    (record.BlocksIntegrationFlow ↔ old.session.any SessionContext.openPulse = true) := by
  simp only [migrateZone, Except.bind_eq_ok_iff, construct_eq_ok_iff, Except.pure_eq_ok,
    Except.ok.injEq, Prod.mk.injEq] at migrated
  obtain ⟨⟨actuator, zone, secondary⟩, split, session, session_migrates, daily, daily_migrates,
    runtime, ⟨-, rfl⟩, built, ⟨-, rfl⟩, kept, ⟨-, rfl⟩, rfl, rfl⟩ := migrated
  obtain ⟨faults, zoneFault, secondaryFault⟩ := splitSchema1Faults_keeps split
  refine ⟨rfl, rfl, ⟨rfl, rfl, faults, zoneFault, secondaryFault, rfl, rfl,
    migrateDaily_keeps daily_migrates, rfl, migrateSession_eq session_migrates⟩, ?_⟩
  rw [SafetyRecord.BlocksIntegrationFlow, mem_orderBlockers]
  cases flow : legacyHasPossibleIntegrationFlow old <;>
    simp only [legacyHasPossibleIntegrationFlow] at flow <;>
    cases context <;>
    simp [migratedOwnership, legacyHasPossibleIntegrationFlow, flow]

/-! ## The whole migration -/

/-- The history IDs of the zones differ. -/
def DistinctHistoryIds (stableMigrationId : String → String → String → String)
    (legacy : Schema1StoreData) : Prop :=
  ∀ k ∈ legacy.zones.keys, ∀ k' ∈ legacy.zones.keys,
    stableMigrationId legacy.generationId k "zone-history" =
      stableMigrationId legacy.generationId k' "zone-history" → k = k'

/-- A migrated store keeps the run IDs and the zones, each with its one record and its one
history, and records the hazard of every zone with unresolved flow. -/
structure MigrationKeeps (legacy : Schema1StoreData) (data : StoreData) : Prop where
  validated : data.toStoreFields.Validated
  generationId : data.generationId = legacy.generationId
  run : data.run = legacy.run
  storeRevision : data.storeRevision = legacy.storeRevision + 1
  records : ∀ k, k ∈ data.safetyRecords.keys ↔ k ∈ legacy.zones.keys
  histories : ∀ i, i ∈ data.zoneHistories.keys → ∃ k ∈ legacy.zones.keys,
    ∀ k' record, data.safetyRecords.get? k' = some record → (record.zoneHistoryId = i ↔ k' = k)
  zones : ∀ k old, legacy.zones.get? k = some old → ∃ record history,
    data.safetyRecords.get? k = some record ∧
    data.zoneHistories.get? record.zoneHistoryId = some history ∧
    ZoneKept k old record history ∧
    (old.CarriesUnresolvedFlow → record.BlocksIntegrationFlow)

def MigratesTo (py : PyRuntime) (stableMigrationId : String → String → String → String)
    (generationId : String) (contexts : Dict String MigrationRecordContext)
    (maps : MigratedMaps) (k : String) (old : ZoneRecord) : Prop :=
  ∃ record history,
    migrateZone py stableMigrationId generationId k old (contexts.get? k) =
      .ok (record, history) ∧
    maps.1.get? k = some record ∧ maps.2.get? history.zoneHistoryId = some history

/-- Rounds for other zones do not touch a key; each zone is entered by its own round. -/
theorem migrateStep_fold {generationId : String} {contexts : Dict String MigrationRecordContext}
    {entries : List (String × ZoneRecord)} (nodup : (entries.map Prod.fst).Nodup)
    (distinct : ∀ k ∈ entries.map Prod.fst, ∀ k' ∈ entries.map Prod.fst,
      stableMigrationId generationId k "zone-history" =
        stableMigrationId generationId k' "zone-history" → k = k')
    {before after : MigratedMaps}
    (folded : entries.foldlM (migrateStep py stableMigrationId generationId contexts) before =
      .ok after) :
    (∀ k old, (k, old) ∈ entries →
      MigratesTo py stableMigrationId generationId contexts after k old) ∧
    (∀ k, k ∉ entries.map Prod.fst → after.1.get? k = before.1.get? k) ∧
    ∀ i, (∀ k ∈ entries.map Prod.fst, stableMigrationId generationId k "zone-history" ≠ i) →
      after.2.get? i = before.2.get? i := by
  induction entries generalizing before with
  | nil =>
    obtain rfl : before = after := by simpa using folded
    simp
  | cons entry rest ih =>
    obtain ⟨key, value⟩ := entry
    rw [List.foldlM_cons] at folded
    obtain ⟨middle, stepped, remaining⟩ := Except.bind_eq_ok_iff.mp folded
    obtain ⟨fresh, nodup⟩ := List.nodup_cons.mp nodup
    obtain ⟨inside, awayRecords, awayHistories⟩ := ih nodup
      (fun k member k' member' => distinct k (List.mem_cons_of_mem _ member) k'
        (List.mem_cons_of_mem _ member')) remaining
    -- the round of `key` writes its record and its history, the later rounds keep both
    cases zone : migrateZone py stableMigrationId generationId key value (contexts.get? key) with
    | error err => simp [migrateStep, zone, Except.map] at stepped
    | ok migrated =>
      obtain ⟨record, history⟩ := migrated
      obtain rfl : (before.1.set key record, before.2.set history.zoneHistoryId history) =
          middle := by
        simpa [migrateStep, zone, Except.map] using stepped
      obtain ⟨-, identified, -⟩ := migrateZone_keeps zone
      have apart : ∀ k ∈ rest.map Prod.fst,
          stableMigrationId generationId k "zone-history" ≠ history.zoneHistoryId := by
        intro k member same
        have equal := distinct k (List.mem_cons_of_mem _ member) key List.mem_cons_self
          (same.trans identified)
        exact fresh (equal ▸ member)
      refine ⟨fun k old member => ?_, fun k absent => ?_, fun i other => ?_⟩
      · rcases List.mem_cons.mp member with same | later
        · obtain ⟨rfl, rfl⟩ := Prod.mk.inj same
          refine ⟨record, history, zone, ?_, ?_⟩
          · rw [awayRecords k fresh, Dict.get?_set_self]
          · rw [awayHistories _ apart, Dict.get?_set_self]
        · exact inside k old later
      · rw [List.map_cons, List.mem_cons, not_or] at absent
        rw [awayRecords k absent.2, Dict.get?_set_of_ne _ _ absent.1]
      · have differs : i ≠ history.zoneHistoryId := by
          rw [identified]
          exact (other key List.mem_cons_self).symm
        rw [awayHistories i fun k member => other k (List.mem_cons_of_mem _ member),
          Dict.get?_set_of_ne _ _ differs]

/-- What a migration that succeeds has done. -/
theorem migrateSchema1ToSchema2_eq_ok {legacy : Schema1StoreData}
    {contexts : Dict String MigrationRecordContext} {data : StoreData}
    (migrated : migrateSchema1ToSchema2 py stableMigrationId legacy contexts = .ok data) :
    ∃ maps : MigratedMaps, legacy.zones.sortedEntries.foldlM
        (migrateStep py stableMigrationId legacy.generationId contexts)
        (Dict.empty, Dict.empty) = .ok maps ∧
      data.toStoreFields = ⟨legacy.generationId, legacy.storeRevision + 1, legacy.run, maps.2,
        maps.1⟩ := by
  simp only [migrateSchema1ToSchema2] at migrated
  split at migrated
  · cases migrated
  · obtain ⟨maps, folded, checked⟩ := Except.bind_eq_ok_iff.mp migrated
    exact ⟨maps, folded, check_mapError_eq_ok_iff.mp (rewrap_eq_ok_iff.mp checked)⟩

/-- A migration of a schema-1 store loses nothing, and it weakens no hazard exactly if every
zone with unresolved flow has an unfinished pulse: the only hazard it looks for. -/
theorem migrateSchema1ToSchema2_keeps_iff (py : PyRuntime)
    (stableMigrationId : String → String → String → String) (legacy : Schema1StoreData)
    (contexts : Dict String MigrationRecordContext) (data : StoreData)
    (distinct : DistinctHistoryIds stableMigrationId legacy)
    (migrated : migrateSchema1ToSchema2 py stableMigrationId legacy contexts = .ok data) :
    MigrationKeeps legacy data ↔
      ∀ k old, legacy.zones.get? k = some old → old.CarriesUnresolvedFlow →
        old.session.any SessionContext.openPulse = true := by
  obtain ⟨maps, folded, fields⟩ := migrateSchema1ToSchema2_eq_ok migrated
  have keys : ∀ k, k ∈ legacy.zones.sortedEntries.map Prod.fst ↔ k ∈ legacy.zones.keys :=
    fun k => (legacy.zones.sortedEntries_perm.map Prod.fst).mem_iff
  obtain ⟨inside, outsideRecords, outsideHistories⟩ := migrateStep_fold
    legacy.zones.nodup_sortedEntries (fun k member k' member' =>
      distinct k ((keys k).mp member) k' ((keys k').mp member')) folded
  have recordsAre : data.safetyRecords = maps.1 := by rw [fields]
  have historiesAre : data.zoneHistories = maps.2 := by rw [fields]
  -- What the loop wrote for each zone.
  have zone : ∀ k old, legacy.zones.get? k = some old → ∃ record history,
      data.safetyRecords.get? k = some record ∧
      data.zoneHistories.get? record.zoneHistoryId = some history ∧
      record.zoneHistoryId = stableMigrationId legacy.generationId k "zone-history" ∧
      ZoneKept k old record history ∧
      (record.BlocksIntegrationFlow ↔ old.session.any SessionContext.openPulse = true) := by
    intro k old held
    obtain ⟨record, history, zone, found, foundHistory⟩ :=
      inside k old (Dict.mem_sortedEntries_iff.mpr held)
    obtain ⟨refers, identified, kept, hazard⟩ := migrateZone_keeps zone
    refine ⟨record, history, by rw [recordsAre, found], ?_, refers, kept, hazard⟩
    rw [historiesAre, refers, ← identified, foundHistory]
  -- It wrote no other record.
  have records : ∀ k, k ∈ data.safetyRecords.keys ↔ k ∈ legacy.zones.keys := by
    intro k
    constructor
    · intro present
      by_contra absent
      rw [← Dict.isSome_get?_iff, recordsAre, outsideRecords k ((keys k).not.mpr absent),
        Dict.get?_empty] at present
      cases present
    · intro present
      obtain ⟨old, held⟩ := Option.isSome_iff_exists.mp (Dict.isSome_get?_iff.mpr present)
      obtain ⟨record, -, found, -⟩ := zone k old held
      rw [← Dict.isSome_get?_iff, found]
      rfl
  constructor
  · -- A possible flow is blocked only where the pulse of the session is open.
    intro keeps k old held carries
    obtain ⟨record, -, found, -, -, blocks⟩ := keeps.zones k old held
    obtain ⟨record', -, found', -, -, -, hazard⟩ := zone k old held
    obtain rfl : record = record' := Option.some.inj (found.symm.trans found')
    exact hazard.mp (blocks carries)
  · intro pulses
    exact {
      validated := data.consistent.validated
      generationId := by rw [fields]
      run := by rw [fields]
      storeRevision := by rw [fields]
      records := records
      histories := by
        intro i present
        -- A history comes from one zone, and its ID from that of the zone.
        have written : ∃ k ∈ legacy.zones.keys,
            stableMigrationId legacy.generationId k "zone-history" = i := by
          by_contra unwritten
          have apart : ∀ k ∈ legacy.zones.sortedEntries.map Prod.fst,
              stableMigrationId legacy.generationId k "zone-history" ≠ i :=
            fun k member same => unwritten ⟨k, (keys k).mp member, same⟩
          rw [← Dict.isSome_get?_iff, historiesAre, outsideHistories i apart,
            Dict.get?_empty] at present
          cases present
        obtain ⟨k, member, rfl⟩ := written
        refine ⟨k, member, fun k' record found => ?_⟩
        have present' : k' ∈ legacy.zones.keys :=
          (records k').mp (Dict.isSome_get?_iff.mp (by rw [found]; rfl))
        obtain ⟨old, held⟩ := Option.isSome_iff_exists.mp (Dict.isSome_get?_iff.mpr present')
        obtain ⟨record', -, found', -, refers, -⟩ := zone k' old held
        obtain rfl : record = record' := Option.some.inj (found.symm.trans found')
        rw [refers]
        exact ⟨fun same => distinct k' present' k member same, fun same => by rw [same]⟩
      zones := by
        intro k old held
        obtain ⟨record, history, found, foundHistory, -, kept, hazard⟩ := zone k old held
        exact ⟨record, history, found, foundHistory, kept,
          fun carries => hazard.mpr (pulses k old held carries)⟩ }

/-! ## Sample payloads -/

/-- The version-5 UUIDs of record `bed` in generation `generation`. -/
def bedMigrationId (_ _ kind : String) : String :=
  if kind = "safety-lineage" then "3b15df94-03fa-5914-937a-a8d2d696fa33"
  else if kind = "zone-history" then "5566ddcb-e64b-5f3f-95dd-9f28904b249e"
  else "7e32cfa1-8dc4-5f4a-a60b-c564dae0055a"

/-- The current configuration of zone `bed`. -/
def bedContext : MigrationRecordContext where
  activeSubentryId := "bed"
  appliedConfig := sampleShadow "bed" "uuid-a" "switch.a"
  actuatorIdentity := sampleActuatorIdentity "uuid-a" "switch.a"
  sensorIdentity := ⟨some "sensor-uuid", some "sensor.soil"⟩

def bedContexts : Dict String MigrationRecordContext := ⟨[("bed", bedContext)], by simp⟩

/-- A stored session with one pulse. -/
def bedSession (offConfirmedAtUtc : Option Instant) : SessionContext where
  sessionId := "session"
  ownerRunId := "run"
  configFingerprint := "fingerprint"
  mode := .auto
  startedAtUtc := 0
  cycle := 1
  pulseIntentAtUtc := some 0
  offConfirmedAtUtc := offConfirmedAtUtc

/-- A schema-1 payload with the one zone `bed`. -/
def bedPayload (state : ControllerState) (fault : Option FaultCode)
    (session : SessionContext) : Payload :=
  .dict
    [("version", .int legacyStoreSchemaVersion),
     ("generation_id", .str "generation"),
     ("store_revision", .int 4),
     ("run", .dict [("active_run_id", .str "run"), ("last_clean_shutdown_run_id", .null)]),
     ("zones", .dict [("bed", .dict
       [("state", .ofEnum state),
        ("enabled", .bool true),
        ("active_fault", .ofOption .ofEnum fault),
        ("secondary_fault", .null),
        ("last_session_end_utc", .null),
        ("last_auto_session_start_utc", .null),
        ("daily", .dict [("date_local", .str "1970-01-01"), ("runtime_s", .float 60)]),
        ("last_session_summary", .null),
        ("session", .dict (sessionToDict epochRuntime session))])])]

/-- What is read from `bedPayload`. -/
def bedStore (state : ControllerState) (fault : Option FaultCode) (session : SessionContext) :
    Schema1StoreData where
  generationId := "generation"
  storeRevision := 4
  run := ⟨some "run", none⟩
  zones := ⟨[("bed",
    { state := state
      enabled := true
      activeFault := fault
      daily := some ⟨0, 60⟩
      session := some session })], by simp⟩

theorem distinctHistoryIds_bedStore (state : ControllerState) (fault : Option FaultCode)
    (session : SessionContext) :
    DistinctHistoryIds bedMigrationId (bedStore state fault session) := by
  intro k member k' member' _
  simp only [bedStore, Dict.keys, List.map_cons, List.map_nil, List.mem_singleton] at member member'
  rw [member, member']

theorem migrateSchema1ToSchema2_keeps_iff_watering :
    DistinctHistoryIds bedMigrationId (bedStore .watering none (bedSession none)) ∧
    ∃ data, migrateSchema1ToSchema2 epochRuntime bedMigrationId
        (bedStore .watering none (bedSession none)) bedContexts = .ok data ∧
      MigrationKeeps (bedStore .watering none (bedSession none)) data := by
  have distinct := distinctHistoryIds_bedStore .watering none (bedSession none)
  have accepted : (migrateSchema1ToSchema2 epochRuntime bedMigrationId
      (bedStore .watering none (bedSession none)) bedContexts).toOption.isSome = true := by
    decide +kernel
  cases migrated : migrateSchema1ToSchema2 epochRuntime bedMigrationId
      (bedStore .watering none (bedSession none)) bedContexts with
  | error err => simp [migrated, Except.toOption] at accepted
  | ok data =>
    refine ⟨distinct, data, rfl, (migrateSchema1ToSchema2_keeps_iff epochRuntime bedMigrationId
      (bedStore .watering none (bedSession none)) bedContexts data distinct migrated).mpr ?_⟩
    intro k old held _
    have member := Dict.get?_eq_some_iff.mp held
    simp only [bedStore, List.mem_singleton, Prod.mk.injEq] at member
    obtain ⟨-, rfl⟩ := member
    rfl

/-- A zone that T34 left in FAULT, its external flow still possible, migrates to an ACTIVE
record without blockers and without a flow owner. -/
theorem not_migrateSchema1ToSchema2_keeps_interfered :
    ∃ legacy data record, schema1StoreDataFromDict epochRuntime
        (bedPayload .fault (some .actuatorOffTimeout) (bedSession (some 0))) = .ok legacy ∧
      Holds bedContext.guards ∧
      migrateSchema1ToSchema2 epochRuntime bedMigrationId legacy bedContexts = .ok data ∧
      data.safetyRecords.get? "bed" = some record ∧ record.blockerReasons = [] ∧
      record.possibleFlowOwner = none ∧ ¬ MigrationKeeps legacy data := by
  have read : schema1StoreDataFromDict epochRuntime
      (bedPayload .fault (some .actuatorOffTimeout) (bedSession (some 0))) =
      .ok (bedStore .fault (some .actuatorOffTimeout) (bedSession (some 0))) := by
    decide +kernel
  have outcome : (match migrateSchema1ToSchema2 epochRuntime bedMigrationId
      (bedStore .fault (some .actuatorOffTimeout) (bedSession (some 0))) bedContexts with
    | .error _ => none
    | .ok data => (data.safetyRecords.get? "bed").map fun record =>
        (record.blockerReasons, record.possibleFlowOwner)) = some ([], none) := by
    decide +kernel
  cases migrated : migrateSchema1ToSchema2 epochRuntime bedMigrationId
      (bedStore .fault (some .actuatorOffTimeout) (bedSession (some 0))) bedContexts with
  | error err => simp [migrated] at outcome
  | ok data =>
    simp only [migrated, Option.map_eq_some_iff, Prod.mk.injEq] at outcome
    obtain ⟨record, found, unblocked, unowned⟩ := outcome
    refine ⟨_, data, record, read, by decide +kernel, migrated, found, unblocked, unowned, ?_⟩
    intro keeps
    obtain ⟨kept, -, held, -, -, blocks⟩ := keeps.zones "bed" _ rfl
    obtain rfl : record = kept := Option.some.inj (found.symm.trans held)
    have blocked := (blocks (.inr ⟨rfl, by decide⟩)).1
    rw [unblocked] at blocked
    cases blocked

end MoistureLoop
