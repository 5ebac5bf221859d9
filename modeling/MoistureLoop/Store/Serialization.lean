import MoistureLoop.Store.Payload

/-! # The stored form of the safety store

`store_data_to_dict`, `store_data_from_dict` and the schema-2 upgrade, with one writer
and one reader for each nested record.  A dictionary is written as the list of its
entries. -/

namespace MoistureLoop

open Payload (ofOption ofEnum ofWhole field)

/-- `STORE_SCHEMA_VERSION`. -/
def storeSchemaVersion : ℕ := 3

/-- `PRIOR_STORE_SCHEMA_VERSION`. -/
def priorStoreSchemaVersion : ℕ := 2

variable (py : PyRuntime)

/-! ## Sessions -/

/-- `session_to_dict`: the live-only fields are not written. -/
def sessionToDict (session : SessionContext) : List (String × Payload) :=
  [("session_id", .str session.sessionId),
   ("owner_run_id", .str session.ownerRunId),
   ("config_fingerprint", .str session.configFingerprint),
   ("mode", ofEnum session.mode),
   ("started_at_utc", dtToIso py (some session.startedAtUtc)),
   ("cycle", .int session.cycle),
   ("session_runtime_s", .float session.sessionRuntimeS),
   ("runtime_estimated", .bool session.runtimeEstimated),
   ("runtime_estimation_reason", ofEnum session.runtimeEstimationReason),
   ("pulse_intent_at_utc", dtToIso py session.pulseIntentAtUtc),
   ("pulse_commanded_at_utc", dtToIso py session.pulseCommandedAtUtc),
   ("pulse_confirmed_at_utc", dtToIso py session.pulseConfirmedAtUtc),
   ("pulse_ends_at_utc", dtToIso py session.pulseEndsAtUtc),
   ("off_confirmed_at_utc", dtToIso py session.offConfirmedAtUtc),
   ("soak_ends_at_utc", dtToIso py session.soakEndsAtUtc),
   ("recheck_not_before_utc", dtToIso py session.recheckNotBeforeUtc),
   ("recheck_grace_deadline_at_utc", dtToIso py session.recheckGraceDeadlineAtUtc),
   ("manual_requested_duration_s", ofOption .float session.manualRequestedDurationS),
   ("manual_effective_duration_s", ofOption .float session.manualEffectiveDurationS),
   ("manual_clamp_reasons", .list (session.manualClampReasons.map ofEnum)),
   ("retained_sensor_fault", ofOption ofEnum (session.retainedSensorFault.map Subtype.val)),
   ("moisture_at_start", ofOption .float session.moistureAtStart)]

/-- The check of `SessionContext.__post_init__` on the retained fault. -/
def sensorFaultOf (fault : Option FaultCode) : Except DecodeError (Option SensorFault) :=
  match fault with
  | none => .ok none
  | some code =>
    if sensor : code.isSensorOnly = true then .ok (some ⟨code, sensor⟩)
    else .error (.value "retained_sensor_fault must be a sensor-only fault")

def required {α : Type} (value : Option α) (message : String) : Except DecodeError α :=
  match value with
  | none => .error (.malformed message)
  | some found => .ok found

/-- `session_from_dict`. -/
def sessionFromDict (raw : Payload) : Except DecodeError SessionContext := do
  let data ← requireExactKeys py raw
    ["session_id", "owner_run_id", "config_fingerprint", "mode", "started_at_utc", "cycle",
     "session_runtime_s", "runtime_estimated", "runtime_estimation_reason",
     "pulse_intent_at_utc", "pulse_commanded_at_utc", "pulse_confirmed_at_utc",
     "pulse_ends_at_utc", "off_confirmed_at_utc", "soak_ends_at_utc",
     "recheck_not_before_utc", "recheck_grace_deadline_at_utc",
     "manual_requested_duration_s", "manual_effective_duration_s", "manual_clamp_reasons",
     "retained_sensor_fault", "moisture_at_start"] "session"
  let start ← isoToDt py (field data "started_at_utc") "started_at_utc"
  let started ← required start "session.started_at_utc must not be null"
  let clampRaw ← listOf (field data "manual_clamp_reasons")
    "session.manual_clamp_reasons must be a list"
  rewrap "session payload invalid: " do
    let sessionId ← strictString (field data "session_id") "session_id"
    let ownerRunId ← strictString (field data "owner_run_id") "owner_run_id"
    let configFingerprint ←
      strictString (field data "config_fingerprint") "config_fingerprint"
    let mode ← enumOf py SessionMode (field data "mode")
    let cycle ← strictInt (field data "cycle") "session.cycle" 0
    let sessionRuntimeS ←
      strictFloat py (field data "session_runtime_s") "session.session_runtime_s"
    let runtimeEstimated ←
      strictBool (field data "runtime_estimated") "session.runtime_estimated"
    let runtimeEstimationReason ←
      enumOf py RuntimeEstimationReason (field data "runtime_estimation_reason")
    let pulseIntentAtUtc ←
      isoToDt py (field data "pulse_intent_at_utc") "pulse_intent_at_utc"
    let pulseCommandedAtUtc ←
      isoToDt py (field data "pulse_commanded_at_utc") "pulse_commanded_at_utc"
    let pulseConfirmedAtUtc ←
      isoToDt py (field data "pulse_confirmed_at_utc") "pulse_confirmed_at_utc"
    let pulseEndsAtUtc ← isoToDt py (field data "pulse_ends_at_utc") "pulse_ends_at_utc"
    let offConfirmedAtUtc ←
      isoToDt py (field data "off_confirmed_at_utc") "off_confirmed_at_utc"
    let soakEndsAtUtc ← isoToDt py (field data "soak_ends_at_utc") "soak_ends_at_utc"
    let recheckNotBeforeUtc ←
      isoToDt py (field data "recheck_not_before_utc") "recheck_not_before_utc"
    let recheckGraceDeadlineAtUtc ← isoToDt py (field data "recheck_grace_deadline_at_utc")
      "recheck_grace_deadline_at_utc"
    let manualRequestedDurationS ← floatOrNone py (field data "manual_requested_duration_s")
    let manualEffectiveDurationS ← floatOrNone py (field data "manual_effective_duration_s")
    let manualClampReasons ← clampRaw.mapM (enumOf py ManualClampReason)
    let retained ←
      enumOrNone py FaultCode (field data "retained_sensor_fault") "retained_sensor_fault"
    let moistureAtStart ← floatOrNone py (field data "moisture_at_start")
    let retainedSensorFault ← sensorFaultOf retained
    return SessionContext.mk sessionId ownerRunId configFingerprint mode started cycle
      sessionRuntimeS runtimeEstimated runtimeEstimationReason pulseIntentAtUtc
      pulseCommandedAtUtc pulseConfirmedAtUtc pulseEndsAtUtc offConfirmedAtUtc soakEndsAtUtc
      recheckNotBeforeUtc recheckGraceDeadlineAtUtc manualRequestedDurationS
      manualEffectiveDurationS manualClampReasons moistureAtStart retainedSensorFault
      none 0 none none

/-- `persisted_session_to_dict`. -/
def persistedSessionToDict (session : PersistedSession) : List (String × Payload) :=
  sessionToDict py session.context
    ++ [("owner_safety_record_id", .str session.ownerSafetyRecordId)]

/-- `persisted_session_from_dict`. -/
def persistedSessionFromDict (raw : Payload) : Except DecodeError PersistedSession :=
  match raw with
  | .dict entries => do
    let owner ← strictString (field entries "owner_safety_record_id") "owner_safety_record_id"
    let contextRaw := entries.filter fun entry => entry.1 ≠ "owner_safety_record_id"
    let context ← sessionFromDict py (.dict contextRaw)
    return ⟨owner, context⟩
  | _ => .error (.malformed "persisted session must be an object")

/-! ## Session summaries -/

/-- `summary_to_dict`. -/
def summaryToDict (summary : SessionSummary) : List (String × Payload) :=
  [("mode", ofEnum summary.mode),
   ("reason", ofEnum summary.reason),
   ("runtime_s", .float summary.runtimeS),
   ("runtime_estimated", .bool summary.runtimeEstimated),
   ("runtime_estimation_reason", ofEnum summary.runtimeEstimationReason),
   ("requested_duration_s", ofOption .float summary.requestedDurationS),
   ("effective_duration_s", ofOption .float summary.effectiveDurationS),
   ("clamp_reasons", .list (summary.clampReasons.map ofEnum)),
   ("cycles", .int summary.cycles),
   ("moisture_before", ofOption .float summary.moistureBefore),
   ("moisture_after", ofOption .float summary.moistureAfter),
   ("started_at_utc", dtToIso py (some summary.startedAtUtc)),
   ("ended_at_utc", dtToIso py (some summary.endedAtUtc))]

/-- `summary_from_dict`. -/
def summaryFromDict (raw : Payload) : Except DecodeError SessionSummary := do
  let data ← requireExactKeys py raw
    ["mode", "reason", "runtime_s", "runtime_estimated", "runtime_estimation_reason",
     "requested_duration_s", "effective_duration_s", "clamp_reasons", "cycles",
     "moisture_before", "moisture_after", "started_at_utc", "ended_at_utc"] "summary"
  let start ← isoToDt py (field data "started_at_utc") "started_at_utc"
  let finish ← isoToDt py (field data "ended_at_utc") "ended_at_utc"
  let startedAtUtc ← required start "summary timestamps must not be null"
  let endedAtUtc ← required finish "summary timestamps must not be null"
  let clampRaw ← listOf (field data "clamp_reasons") "summary.clamp_reasons must be a list"
  rewrap "summary payload invalid: " do
    let mode ← enumOf py SessionMode (field data "mode")
    let reason ← enumOf py CompletionReason (field data "reason")
    let runtimeS ← strictFloat py (field data "runtime_s") "summary.runtime_s"
    let runtimeEstimated ←
      strictBool (field data "runtime_estimated") "summary.runtime_estimated"
    let runtimeEstimationReason ←
      enumOf py RuntimeEstimationReason (field data "runtime_estimation_reason")
    let requestedDurationS ← floatOrNone py (field data "requested_duration_s")
    let effectiveDurationS ← floatOrNone py (field data "effective_duration_s")
    let clampReasons ← clampRaw.mapM (enumOf py ManualClampReason)
    let cycles ← strictInt (field data "cycles") "summary.cycles" 0
    let moistureBefore ← floatOrNone py (field data "moisture_before")
    let moistureAfter ← floatOrNone py (field data "moisture_after")
    return SessionSummary.mk mode reason runtimeS runtimeEstimated runtimeEstimationReason
      requestedDurationS effectiveDurationS clampReasons cycles moistureBefore moistureAfter
      startedAtUtc endedAtUtc

/-! ## Identities and the applied shadow -/

/-- `_identity_to_dict` of a sensor identity. -/
def sensorIdentityToDict (identity : SensorIdentity) : List (String × Payload) :=
  [("registry_entry_id", ofOption .str identity.registryEntryId),
   ("last_known_entity_id", ofOption .str identity.lastKnownEntityId)]

/-- `_sensor_identity_from_dict`. -/
def sensorIdentityFromDict (raw : Payload) : Except DecodeError SensorIdentity := do
  let data ← requireExactKeys py raw ["registry_entry_id", "last_known_entity_id"]
    "sensor_identity"
  let registryEntryId ← strictStringOrNull (field data "registry_entry_id") "registry_entry_id"
  let lastKnownEntityId ←
    strictStringOrNull (field data "last_known_entity_id") "last_known_entity_id"
  construct SensorIdentity.guards ⟨registryEntryId, lastKnownEntityId⟩

/-- `_identity_to_dict` of an applied identity. -/
def appliedIdentityToDict (identity : AppliedEntityIdentity) : List (String × Payload) :=
  [("registry_entry_id", ofOption .str identity.registryEntryId),
   ("last_known_entity_id", .str identity.lastKnownEntityId),
   ("domain", .str identity.domain)]

/-- `_applied_identity_from_dict`. -/
def appliedIdentityFromDict (raw : Payload) (context : String) :
    Except DecodeError AppliedEntityIdentity := do
  let data ← requireExactKeys py raw ["registry_entry_id", "last_known_entity_id", "domain"]
    context
  let registryEntryId ←
    strictStringOrNull (field data "registry_entry_id") (context ++ ".registry_entry_id")
  let lastKnownEntityId ←
    strictString (field data "last_known_entity_id") (context ++ ".last_known_entity_id")
  let domain ← strictString (field data "domain") (context ++ ".domain")
  construct AppliedEntityIdentity.guards ⟨registryEntryId, lastKnownEntityId, domain⟩

/-- `_identity_to_dict` of an actuator identity. -/
def actuatorIdentityToDict (identity : ActuatorIdentity) : List (String × Payload) :=
  [("registry_entry_id", ofOption .str identity.registryEntryId),
   ("last_known_entity_id", ofOption .str identity.lastKnownEntityId),
   ("domain", ofOption .str identity.domain),
   ("identity_status", ofEnum identity.identityStatus),
   ("off_service", ofOption .str identity.offService),
   ("confirm_timeout_s", ofOption ofWhole identity.confirmTimeoutS)]

/-- `_strict_int` with minimum 1 of a nullable field. -/
def strictTimeout (raw : Payload) (name : String) : Except DecodeError (Option Seconds) :=
  match raw with
  | .null => .ok none
  | raw => (strictInt raw name 1).map fun number : ℕ => some (number : Seconds)

/-- `_actuator_identity_from_dict`. -/
def actuatorIdentityFromDict (raw : Payload) : Except DecodeError ActuatorIdentity := do
  let data ← requireExactKeys py raw
    ["registry_entry_id", "last_known_entity_id", "domain", "identity_status", "off_service",
     "confirm_timeout_s"] "actuator_identity"
  let registryEntryId ← strictStringOrNull (field data "registry_entry_id") "registry_entry_id"
  let lastKnownEntityId ←
    strictStringOrNull (field data "last_known_entity_id") "last_known_entity_id"
  let domain ← strictStringOrNull (field data "domain") "domain"
  let identityStatus ← enumOf py IdentityStatus (field data "identity_status")
  let offService ← strictStringOrNull (field data "off_service") "off_service"
  let confirmTimeoutS ← strictTimeout (field data "confirm_timeout_s") "confirm_timeout_s"
  construct ActuatorIdentity.guards
    ⟨registryEntryId, lastKnownEntityId, domain, identityStatus, offService, confirmTimeoutS⟩

/-- `NormalizedZoneSettings.as_dict`. -/
def NormalizedZoneSettings.asDict (settings : NormalizedZoneSettings) :
    List (String × Payload) :=
  [("name", .str settings.name),
   ("start_threshold", .float settings.startThreshold),
   ("target_threshold", .float settings.targetThreshold),
   ("pulse_duration_s", ofWhole settings.pulseDurationS),
   ("soak_duration_s", ofWhole settings.soakDurationS),
   ("max_cycles", .int settings.maxCycles),
   ("max_session_runtime_s", ofWhole settings.maxSessionRuntimeS),
   ("max_daily_runtime_s", ofWhole settings.maxDailyRuntimeS),
   ("min_session_interval_s", ofWhole settings.minSessionIntervalS),
   ("sensor_max_age_s", ofWhole settings.sensorMaxAgeS),
   ("actuator_confirm_timeout_s", ofWhole settings.actuatorConfirmTimeoutS),
   ("manual_max_duration_s", ofWhole settings.manualMaxDurationS)]

/-- `_settings_from_dict`. -/
def settingsFromDict (raw : Payload) : Except DecodeError NormalizedZoneSettings := do
  let data ← requireExactKeys py raw
    ["name", "start_threshold", "target_threshold", "pulse_duration_s", "soak_duration_s",
     "max_cycles", "max_session_runtime_s", "max_daily_runtime_s", "min_session_interval_s",
     "sensor_max_age_s", "actuator_confirm_timeout_s", "manual_max_duration_s"]
    "normalized_settings"
  let name ← strictString (field data "name") "settings.name"
  let startThreshold ←
    strictFloat py (field data "start_threshold") "settings.start_threshold"
  let targetThreshold ←
    strictFloat py (field data "target_threshold") "settings.target_threshold"
  let pulseDurationS ← strictInt (field data "pulse_duration_s") "settings.pulse_duration_s" 0
  let soakDurationS ← strictInt (field data "soak_duration_s") "settings.soak_duration_s" 0
  let maxCycles ← strictInt (field data "max_cycles") "settings.max_cycles" 0
  let maxSessionRuntimeS ←
    strictInt (field data "max_session_runtime_s") "settings.max_session_runtime_s" 0
  let maxDailyRuntimeS ←
    strictInt (field data "max_daily_runtime_s") "settings.max_daily_runtime_s" 0
  let minSessionIntervalS ←
    strictInt (field data "min_session_interval_s") "settings.min_session_interval_s" 0
  let sensorMaxAgeS ← strictInt (field data "sensor_max_age_s") "settings.sensor_max_age_s" 0
  let actuatorConfirmTimeoutS ←
    strictInt (field data "actuator_confirm_timeout_s") "settings.actuator_confirm_timeout_s" 0
  let manualMaxDurationS ←
    strictInt (field data "manual_max_duration_s") "settings.manual_max_duration_s" 0
  return NormalizedZoneSettings.mk name startThreshold targetThreshold pulseDurationS
    soakDurationS maxCycles maxSessionRuntimeS maxDailyRuntimeS minSessionIntervalS
    sensorMaxAgeS actuatorConfirmTimeoutS manualMaxDurationS

/-- `_shadow_to_dict`. -/
def shadowToDict (shadow : AppliedConfigurationShadow) : List (String × Payload) :=
  [("subentry_id", .str shadow.subentryId),
   ("config_fingerprint", .str shadow.configFingerprint),
   ("entry_snapshot_fingerprint", .str shadow.entrySnapshotFingerprint),
   ("applied_generation", .int shadow.appliedGeneration),
   ("normalized_settings", .dict shadow.normalizedSettings.asDict),
   ("sensor_identity", .dict (appliedIdentityToDict shadow.sensorIdentity)),
   ("actuator_identity", .dict (appliedIdentityToDict shadow.actuatorIdentity))]

/-- `_shadow_from_dict`. -/
def shadowFromDict (raw : Payload) : Except DecodeError AppliedConfigurationShadow := do
  let data ← requireExactKeys py raw
    ["subentry_id", "config_fingerprint", "entry_snapshot_fingerprint", "applied_generation",
     "normalized_settings", "sensor_identity", "actuator_identity"] "applied_config"
  let subentryId ← strictString (field data "subentry_id") "applied_config.subentry_id"
  let configFingerprint ←
    strictString (field data "config_fingerprint") "applied_config.config_fingerprint"
  let entrySnapshotFingerprint ← strictString (field data "entry_snapshot_fingerprint")
    "applied_config.entry_snapshot_fingerprint"
  let appliedGeneration ←
    strictInt (field data "applied_generation") "applied_config.applied_generation" 0
  let normalizedSettings ← settingsFromDict py (field data "normalized_settings")
  let sensorIdentity ←
    appliedIdentityFromDict py (field data "sensor_identity") "applied sensor"
  let actuatorIdentity ←
    appliedIdentityFromDict py (field data "actuator_identity") "applied actuator"
  construct AppliedConfigurationShadow.guards
    ⟨subentryId, configFingerprint, entrySnapshotFingerprint, appliedGeneration,
      normalizedSettings, sensorIdentity, actuatorIdentity⟩

/-! ## Daily runtime -/

/-- `_contribution_to_dict`. -/
def contributionToDict (contribution : AccountingContribution) : List (String × Payload) :=
  [("accounting_contribution_id", .str contribution.accountingContributionId),
   ("source_safety_record_id", .str contribution.sourceSafetyRecordId),
   ("start_utc", dtToIso py contribution.startUtc),
   ("end_utc", dtToIso py contribution.endUtc),
   ("runtime_s", .float contribution.runtimeS),
   ("runtime_estimated", .bool contribution.runtimeEstimated),
   ("local_date", ofOption (fun day => .str (py.dateIsoformat day)) contribution.localDate)]

/-- The text of a stored day, or null. -/
def dateText (raw : Payload) (message : String) : Except DecodeError (Option String) :=
  match raw with
  | .null => .ok none
  | .str text => .ok (some text)
  | _ => .error (.malformed message)

/-- `date.fromisoformat` of a text that may be missing. -/
def optionalDate (text : Option String) : Except DecodeError (Option LocalDate) :=
  match text with
  | none => .ok none
  | some text => (parseDate py text).map some

/-- `_contribution_from_dict`. -/
def contributionFromDict (raw : Payload) : Except DecodeError AccountingContribution := do
  let data ← requireExactKeys py raw
    ["accounting_contribution_id", "source_safety_record_id", "start_utc", "end_utc",
     "runtime_s", "runtime_estimated", "local_date"] "accounting contribution"
  let localDateRaw ← dateText (field data "local_date")
    "contribution.local_date must be an ISO date or null"
  let accountingContributionId ←
    strictString (field data "accounting_contribution_id") "accounting_contribution_id"
  let sourceSafetyRecordId ←
    strictString (field data "source_safety_record_id") "source_safety_record_id"
  let startUtc ← isoToDt py (field data "start_utc") "contribution.start_utc"
  let endUtc ← isoToDt py (field data "end_utc") "contribution.end_utc"
  let runtimeS ← strictFloat py (field data "runtime_s") "contribution.runtime_s"
  let runtimeEstimated ←
    strictBool (field data "runtime_estimated") "contribution.runtime_estimated"
  let localDate ← optionalDate py localDateRaw
  construct AccountingContribution.guards
    ⟨accountingContributionId, sourceSafetyRecordId, startUtc, endUtc, runtimeS,
      runtimeEstimated, localDate⟩

/-- The `daily` object of a zone history. -/
def dailyToDict (daily : ZoneDailyRuntime) : List (String × Payload) :=
  [("date_local", .str (py.dateIsoformat daily.dateLocal)),
   ("runtime_s", .float daily.runtimeS),
   ("conservative_unattributed_runtime_s", .float daily.conservativeUnattributedRuntimeS),
   ("contributions", .list (daily.contributions.map fun contribution =>
      .dict (contributionToDict py contribution)))]

def textOf (raw : Payload) (message : String) : Except DecodeError String :=
  match raw with
  | .str text => .ok text
  | _ => .error (.malformed message)

/-- The `daily` object of a zone history, read back. -/
def dailyFromDict (raw : Payload) : Except DecodeError ZoneDailyRuntime := do
  let data ← requireExactKeys py raw
    ["date_local", "runtime_s", "conservative_unattributed_runtime_s", "contributions"]
    "zone_history.daily"
  let text ← textOf (field data "date_local") "daily.date_local must be an ISO date string"
  let contributionsRaw ← listOf (field data "contributions")
    "daily.contributions must be a list"
  let dateLocal ← parseDate py text
  let runtimeS ← strictFloat py (field data "runtime_s") "daily.runtime_s"
  let conservativeUnattributedRuntimeS ←
    strictFloat py (field data "conservative_unattributed_runtime_s")
      "daily.conservative_unattributed_runtime_s"
  let contributions ← contributionsRaw.mapM (contributionFromDict py)
  construct ZoneDailyRuntime.guards
    ⟨dateLocal, runtimeS, conservativeUnattributedRuntimeS, contributions⟩

def objectOrNull {α : Type} (read : Payload → Except DecodeError α) (raw : Payload) :
    Except DecodeError (Option α) :=
  match raw with
  | .null => .ok none
  | raw => (read raw).map some

/-! ## Zone histories -/

/-- The `zone_runtime` object of a zone history. -/
def zoneRuntimeToDict (runtime : ZoneRuntime) : List (String × Payload) :=
  [("enabled", .bool runtime.enabled),
   ("state", ofEnum runtime.state),
   ("zone_fault", ofOption ofEnum runtime.zoneFault),
   ("secondary_fault", ofOption ofEnum runtime.secondaryFault),
   ("sensor_identity", .dict (sensorIdentityToDict runtime.sensorIdentity)),
   ("last_session_summary", ofOption (fun summary => .dict (summaryToDict py summary))
      runtime.lastSessionSummary),
   ("session", ofOption (fun session => .dict (persistedSessionToDict py session))
      runtime.session)]

/-- One zone history as `store_data_to_dict` writes it under its ID. -/
def zoneHistoryToDict (history : ZoneHistory) : List (String × Payload) :=
  [("active_subentry_id", ofOption .str history.activeSubentryId),
   ("previous_subentry_ids", .list (history.previousSubentryIds.map .str)),
   ("last_session_end_utc", dtToIso py history.lastSessionEndUtc),
   ("last_auto_session_start_utc", dtToIso py history.lastAutoSessionStartUtc),
   ("zone_runtime", .dict (zoneRuntimeToDict py history.zoneRuntime)),
   ("daily", ofOption (fun daily => .dict (dailyToDict py daily)) history.daily)]

/-- `_map_id`. -/
def mapId (key : String) (context : String) : Except DecodeError String :=
  if key = "" then .error (.malformed (context ++ " map key must be a non-empty string"))
  else .ok key

/-- `_zone_history_from_dict`. -/
def zoneHistoryFromDict (historyId : String) (raw : Payload) : Except DecodeError ZoneHistory := do
  let zoneHistoryId ← mapId historyId "zone_history"
  let data ← requireExactKeys py raw
    ["active_subentry_id", "previous_subentry_ids", "last_session_end_utc",
     "last_auto_session_start_utc", "zone_runtime", "daily"] "zone_history"
  let runtimeRaw ← requireExactKeys py (field data "zone_runtime")
    ["enabled", "state", "zone_fault", "secondary_fault", "sensor_identity",
     "last_session_summary", "session"] "zone_runtime"
  let daily ← objectOrNull (dailyFromDict py) (field data "daily")
  let activeSubentryId ←
    strictStringOrNull (field data "active_subentry_id") "zone_history.active_subentry_id"
  let previousSubentryIds ←
    stringTuple (fun item => strictString item "zone_history.previous_subentry_ids")
      (field data "previous_subentry_ids") "zone_history.previous_subentry_ids"
  let lastSessionEndUtc ←
    isoToDt py (field data "last_session_end_utc") "zone_history.last_session_end_utc"
  let lastAutoSessionStartUtc ← isoToDt py (field data "last_auto_session_start_utc")
    "zone_history.last_auto_session_start_utc"
  let enabled ← strictBool (field runtimeRaw "enabled") "zone_runtime.enabled"
  let state ← enumOf py ControllerState (field runtimeRaw "state")
  let zoneFault ← enumOrNone py FaultCode (field runtimeRaw "zone_fault") "zone_fault"
  let secondaryFault ←
    enumOrNone py FaultCode (field runtimeRaw "secondary_fault") "secondary_fault"
  let sensorIdentity ← sensorIdentityFromDict py (field runtimeRaw "sensor_identity")
  let lastSessionSummary ←
    objectOrNull (summaryFromDict py) (field runtimeRaw "last_session_summary")
  let session ← objectOrNull (persistedSessionFromDict py) (field runtimeRaw "session")
  let zoneRuntime ← construct ZoneRuntime.guards
    ⟨enabled, state, zoneFault, secondaryFault, sensorIdentity, lastSessionSummary, session⟩
  construct ZoneHistory.guards
    ⟨zoneHistoryId, activeSubentryId, previousSubentryIds, lastSessionEndUtc,
      lastAutoSessionStartUtc, zoneRuntime, daily⟩

/-! ## Safety records -/

/-- `_removed_ack_to_dict` of a given proof. -/
def removedAckToDict (ack : RemovedActuatorAcknowledgement) : List (String × Payload) :=
  [("acknowledged_at_utc", dtToIso py (some ack.acknowledgedAtUtc)),
   ("registry_entry_id", .str ack.registryEntryId),
   ("last_known_entity_id", ofOption .str ack.lastKnownEntityId)]

/-- The `removed_actuator_ack` object of a safety record, read back. -/
def removedAckFromDict (raw : Payload) : Except DecodeError RemovedActuatorAcknowledgement := do
  let data ← requireExactKeys py raw
    ["acknowledged_at_utc", "registry_entry_id", "last_known_entity_id"] "removed_actuator_ack"
  let acknowledged ← isoToDt py (field data "acknowledged_at_utc")
    "removed_actuator_ack.acknowledged_at_utc"
  let acknowledgedAtUtc ←
    requireDt acknowledged "removed_actuator_ack.acknowledged_at_utc"
  let registryEntryId ←
    strictString (field data "registry_entry_id") "removed_actuator_ack.registry_entry_id"
  let lastKnownEntityId ← strictStringOrNull (field data "last_known_entity_id")
    "removed_actuator_ack.last_known_entity_id"
  construct RemovedActuatorAcknowledgement.guards
    ⟨acknowledgedAtUtc, registryEntryId, lastKnownEntityId⟩

/-- The `identity_incident` object of a safety record. -/
def incidentToDict (incident : IdentityIncident) : List (String × Payload) :=
  [("kind", ofEnum incident.kind), ("detail", .str incident.detail)]

/-- The `identity_incident` object of a safety record, read back. -/
def incidentFromDict (raw : Payload) : Except DecodeError IdentityIncident := do
  let data ← requireExactKeys py raw ["kind", "detail"] "identity_incident"
  let kind ← enumOf py IdentityIncidentKind (field data "kind")
  let detail ← strictString (field data "detail") "identity_incident.detail"
  construct IdentityIncident.guards ⟨kind, detail⟩

/-- One safety record as `store_data_to_dict` writes it under its ID. -/
def safetyRecordToDict (record : SafetyRecord) : List (String × Payload) :=
  [("zone_id", .str record.zoneId),
   ("active_subentry_id", ofOption .str record.activeSubentryId),
   ("previous_subentry_ids", .list (record.previousSubentryIds.map .str)),
   ("safety_lineage_id", .str record.safetyLineageId),
   ("zone_history_id", .str record.zoneHistoryId),
   ("historical_zone_history_ids", .list (record.historicalZoneHistoryIds.map .str)),
   ("runtime_lifecycle", ofEnum record.runtimeLifecycle),
   ("applied_config", ofOption (fun shadow => .dict (shadowToDict shadow))
      record.appliedConfig),
   ("actuator_identity", .dict (actuatorIdentityToDict record.actuatorIdentity)),
   ("blocker_reasons", .list (record.blockerReasons.map ofEnum)),
   ("possible_flow_owner", ofOption ofEnum record.possibleFlowOwner),
   ("identity_incident", ofOption (fun incident => .dict (incidentToDict incident))
      record.identityIncident),
   ("actuator_fault", ofOption ofEnum record.actuatorFault),
   ("acknowledgement_required", .bool record.acknowledgementRequired),
   ("removed_actuator_ack", ofOption (fun ack => .dict (removedAckToDict py ack))
      record.removedActuatorAck)]

/-- `_safety_record_from_dict`. -/
def safetyRecordFromDict (recordId : String) (raw : Payload) :
    Except DecodeError SafetyRecord := do
  let safetyRecordId ← mapId recordId "safety_record"
  let data ← requireExactKeys py raw
    ["zone_id", "active_subentry_id", "previous_subentry_ids", "safety_lineage_id",
     "zone_history_id", "historical_zone_history_ids", "runtime_lifecycle", "applied_config",
     "actuator_identity", "blocker_reasons", "possible_flow_owner", "identity_incident",
     "actuator_fault", "acknowledgement_required", "removed_actuator_ack"] "safety_record"
  let removedActuatorAck ←
    objectOrNull (removedAckFromDict py) (field data "removed_actuator_ack")
  let identityIncident ← objectOrNull (incidentFromDict py) (field data "identity_incident")
  let zoneId ← strictString (field data "zone_id") "safety_record.zone_id"
  let activeSubentryId ←
    strictStringOrNull (field data "active_subentry_id") "safety_record.active_subentry_id"
  let previousSubentryIds ←
    stringTuple (fun item => strictString item "safety_record.previous_subentry_ids")
      (field data "previous_subentry_ids") "safety_record.previous_subentry_ids"
  let safetyLineageId ←
    strictString (field data "safety_lineage_id") "safety_record.safety_lineage_id"
  let zoneHistoryId ←
    strictString (field data "zone_history_id") "safety_record.zone_history_id"
  let historicalZoneHistoryIds ←
    stringTuple (fun item => strictString item "safety_record.historical_zone_history_ids")
      (field data "historical_zone_history_ids") "safety_record.historical_zone_history_ids"
  let runtimeLifecycle ← enumOf py RuntimeLifecycle (field data "runtime_lifecycle")
  let appliedConfig ← objectOrNull (shadowFromDict py) (field data "applied_config")
  let actuatorIdentity ← actuatorIdentityFromDict py (field data "actuator_identity")
  let blockerReasons ← stringTuple (enumOf py BlockerReason) (field data "blocker_reasons")
    "safety_record.blocker_reasons"
  let possibleFlowOwner ← enumOrNone py PossibleFlowOwner (field data "possible_flow_owner")
    "possible_flow_owner"
  let actuatorFault ← enumOrNone py FaultCode (field data "actuator_fault") "actuator_fault"
  let acknowledgementRequired ←
    strictBool (field data "acknowledgement_required") "acknowledgement_required"
  construct SafetyRecord.guards
    ⟨safetyRecordId, zoneId, activeSubentryId, previousSubentryIds, safetyLineageId,
      zoneHistoryId, historicalZoneHistoryIds, runtimeLifecycle, appliedConfig,
      actuatorIdentity, blockerReasons, possibleFlowOwner, identityIncident, actuatorFault,
      acknowledgementRequired, removedActuatorAck⟩

/-! ## The complete store -/

def sameSet (left right : List String) : Bool :=
  left.all (fun text => text ∈ right) && right.all fun text => text ∈ left

/-- `validate_store_data`, with the map keys compared with the IDs as the source does it:
as two sets. -/
def StoreFields.validateStoreData (data : StoreFields) : List (Bool × String) :=
  data.crossGuards
    (!sameSet data.zoneHistories.keys (data.zoneHistories.values.map ZoneHistory.zoneHistoryId))
    (!sameSet data.safetyRecords.keys
      (data.safetyRecords.values.map SafetyRecord.safetyRecordId))

/-- What `store_data_to_dict` writes; both maps in the order of their keys. -/
def storeEntries (data : StoreFields) : List (String × Payload) :=
  [("version", .int storeSchemaVersion),
   ("generation_id", .str data.generationId),
   ("store_revision", .int data.storeRevision),
   ("run", .dict
      [("active_run_id", ofOption .str data.run.activeRunId),
       ("last_clean_shutdown_run_id", ofOption .str data.run.lastCleanShutdownRunId)]),
   ("zone_histories", .dict (data.zoneHistories.sortedEntries.map fun entry =>
      (entry.1, .dict (zoneHistoryToDict py entry.2)))),
   ("safety_records", .dict (data.safetyRecords.sortedEntries.map fun entry =>
      (entry.1, .dict (safetyRecordToDict py entry.2))))]

/-- `store_data_to_dict`. -/
def storeDataToDict (data : StoreFields) : Except DecodeError Payload :=
  (construct StoreFields.validateStoreData data).map fun data => .dict (storeEntries py data)

def entriesOf (raw : Payload) (message : String) :
    Except DecodeError (List (String × Payload)) :=
  match raw with
  | .dict entries => .ok entries
  | _ => .error (.malformed message)

/-- A `ValueError` of a store check. -/
def DecodeError.ofPyError : PyError → DecodeError
  | .storeWriteVerification message | .storeNotLoaded message | .value message =>
    .value message
  | .key => .value "KeyError"

/-- The version check of `store_data_from_dict`. -/
def requireSchemaVersion (raw : Payload) : Except DecodeError Unit :=
  match raw with
  | .int version =>
    if (storeSchemaVersion : Int) < version then
      .error (.futureVersion ("store schema " ++ toString version ++ " is newer than "
        ++ toString storeSchemaVersion))
    else if version ≠ storeSchemaVersion then
      .error (.malformed ("store schema " ++ toString version ++ " is not schema "
        ++ toString storeSchemaVersion))
    else .ok ()
  | _ => .error (.malformed "store.version must be an integer")

/-- `store_data_from_dict`. -/
def storeDataFromDict (raw : Payload) : Except DecodeError StoreData := do
  let entries ← entriesOf raw "store must be an object"
  requireSchemaVersion (field entries "version")
  let data ← requireExactKeys py raw
    ["version", "generation_id", "store_revision", "run", "zone_histories", "safety_records"]
    "store"
  let generationId ← strictString (field data "generation_id") "store.generation_id"
  let storeRevision ← strictInt (field data "store_revision") "store.store_revision" 1
  let runRaw ← requireExactKeys py (field data "run")
    ["active_run_id", "last_clean_shutdown_run_id"] "store.run"
  let activeRunId ← strictStringOrNull (field runRaw "active_run_id") "store.run.active_run_id"
  let lastCleanShutdownRunId ← strictStringOrNull (field runRaw "last_clean_shutdown_run_id")
    "store.run.last_clean_shutdown_run_id"
  let historiesRaw ← entriesOf (field data "zone_histories")
    "store zone_histories/safety_records must be objects"
  let recordsRaw ← entriesOf (field data "safety_records")
    "store zone_histories/safety_records must be objects"
  rewrap "schema-2 payload invalid: " do
    let zoneHistories ← Dict.ofEntriesM (zoneHistoryFromDict py) historiesRaw
    let safetyRecords ← Dict.ofEntriesM (safetyRecordFromDict py) recordsRaw
    (StoreFields.mk generationId storeRevision ⟨activeRunId, lastCleanShutdownRunId⟩
      zoneHistories safetyRecords).check.mapError DecodeError.ofPyError

/-! ## The schema-2 upgrade -/

/-- `{**mapping, key: value}`. -/
def withField (entries : List (String × Payload)) (key : String) (value : Payload) :
    List (String × Payload) :=
  if key ∈ entries.map Prod.fst then
    entries.map fun entry => if entry.1 = key then (key, value) else entry
  else entries ++ [(key, value)]

/-- Python's equality of a stored value with an integer. -/
def equalsInt (raw : Payload) (number : Int) : Bool :=
  match raw with
  | .int value => value = number
  | .float value => value = number
  | .bool value => (if value then 1 else 0) = number
  | _ => false

/-- One record of `migrate_schema2_to_schema3`. -/
def upgradeRecord (raw : Payload) : Except DecodeError Payload := do
  let record ← entriesOf raw "safety_record must be an object"
  if "removed_actuator_ack" ∈ record.map Prod.fst then
    .error (.malformed "schema-2 record cannot declare removed_actuator_ack")
  else .ok (.dict (withField record "removed_actuator_ack" .null))

/-- `migrate_schema2_to_schema3`. -/
def migrateSchema2ToSchema3 (raw : Payload) : Except DecodeError StoreData := do
  let entries ← entriesOf raw "store must be an object"
  if !equalsInt (field entries "version") priorStoreSchemaVersion then
    .error (.malformed ("schema-" ++ toString priorStoreSchemaVersion
      ++ " upgrade requires a schema-" ++ toString priorStoreSchemaVersion ++ " payload"))
  else do
    let recordsRaw ← entriesOf (field entries "safety_records")
      "store.safety_records must be an object"
    let upgradedRecords ← recordsRaw.mapM fun entry =>
      (upgradeRecord entry.2).map fun record => (entry.1, record)
    storeDataFromDict py (.dict (withField
      (withField entries "version" (.int storeSchemaVersion)) "safety_records"
      (.dict upgradedRecords)))

end MoistureLoop
