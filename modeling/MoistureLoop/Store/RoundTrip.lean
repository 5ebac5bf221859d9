import MoistureLoop.Store.Operations
import MoistureLoop.Store.Serialization

/-! # Reading back what was written

What the readers demand of a value beyond its own check, and for each nested record that
reading its written form gives it back without the live-only session fields, and that
what a reader accepts meets these demands. -/

namespace MoistureLoop

open Payload (ofOption ofEnum ofWhole field)

variable {py : PyRuntime}

/-! ## Sessions -/

def SessionContext.instants (session : SessionContext) : List (Option Instant) :=
  [some session.startedAtUtc, session.pulseIntentAtUtc, session.pulseCommandedAtUtc,
   session.pulseConfirmedAtUtc, session.pulseEndsAtUtc, session.offConfirmedAtUtc,
   session.soakEndsAtUtc, session.recheckNotBeforeUtc, session.recheckGraceDeadlineAtUtc]

/-- What the strict reader demands of a session. -/
structure SessionContext.Strict (py : PyRuntime) (session : SessionContext) : Prop where
  sessionId : session.sessionId ≠ ""
  ownerRunId : session.ownerRunId ≠ ""
  configFingerprint : session.configFingerprint ≠ ""
  sessionRuntimeS : 0 ≤ session.sessionRuntimeS
  datetimes : ∀ value ∈ session.instants, ∀ instant ∈ value, py.IsDatetime instant

theorem sensorFaultOf_val (fault : Option SensorFault) :
    sensorFaultOf (fault.map Subtype.val) = .ok fault := by
  cases fault with
  | none => rfl
  | some code => simp [sensorFaultOf, code.property]

theorem mapM_enumOf {α : Type} [StrEnum α] (members : List α) :
    (members.map ofEnum).mapM (enumOf py α) = .ok members := by
  have read : (members.map ofEnum).mapM (enumOf py α) = .ok (members.map id) :=
    Codec.mapM_map_eq_ok fun member _ => enumOf_ofEnum member
  rwa [List.map_id] at read

/-- A written session reads back without its live-only fields. -/
theorem sessionFromDict_sessionToDict {session : SessionContext} (strict : session.Strict py) :
    sessionFromDict py (.dict (sessionToDict py session)) = .ok session.persisted := by
  have datetimes := strict.datetimes
  simp only [SessionContext.instants, List.forall_mem_cons] at datetimes
  obtain ⟨started, intent, commanded, confirmed, ends, off, soak, notBefore, grace, -⟩ :=
    datetimes
  unfold sessionFromDict
  rw [requireExactKeys_eq_ok]
  case same => rfl
  simp only [sessionToDict, Payload.field_cons, String.reduceEq, ↓reduceIte, Except.ok_bind,
    isoToDt_dtToIso _ started, required, listOf, strictString_str _ strict.sessionId,
    strictString_str _ strict.ownerRunId, strictString_str _ strict.configFingerprint,
    enumOf_ofEnum, strictInt_int _ (Nat.zero_le session.cycle),
    strictFloat_float _ strict.sessionRuntimeS, strictBool_bool, isoToDt_dtToIso _ intent,
    isoToDt_dtToIso _ commanded, isoToDt_dtToIso _ confirmed, isoToDt_dtToIso _ ends,
    isoToDt_dtToIso _ off, isoToDt_dtToIso _ soak, isoToDt_dtToIso _ notBefore,
    isoToDt_dtToIso _ grace, floatOrNone_ofOption, mapM_enumOf, enumOrNone_ofOption,
    sensorFaultOf_val, Except.pure_eq_ok, rewrap_ok]
  rfl

theorem eq_of_required {α : Type} {value : Option α} {message : String} {found : α}
    (read : required value message = .ok found) : value = some found := by
  cases value with
  | none => cases read
  | some held => rw [Except.ok.inj read]

/-- The session reader accepts only sessions that meet its demands, and sets no live-only
field. -/
theorem strict_of_sessionFromDict {raw : Payload} {session : SessionContext}
    (read : sessionFromDict py raw = .ok session) :
    session.Strict py ∧ session.persisted = session := by
  simp only [sessionFromDict, Except.bind_eq_ok_iff, rewrap_eq_ok_iff, Except.pure_eq_ok,
    Except.ok.injEq] at read
  obtain ⟨data, -, start, start_read, started, start_given, clampRaw, -,
    sessionId, sessionId_read, ownerRunId, ownerRunId_read, fingerprint, fingerprint_read,
    mode, -, cycle, -, runtime, runtime_read, estimated, -, estimationReason, -,
    intent, intent_read, commanded, commanded_read, confirmed, confirmed_read,
    ends, ends_read, off, off_read, soak, soak_read, notBefore, notBefore_read,
    grace, grace_read, requested, -, effective, -, clamps, -, retained, -, moisture, -,
    sensorFault, -, rfl⟩ := read
  obtain rfl := eq_of_required start_given
  refine ⟨?_, rfl⟩
  constructor
  · exact ne_empty_of_strictString sessionId_read
  · exact ne_empty_of_strictString ownerRunId_read
  · exact ne_empty_of_strictString fingerprint_read
  · exact nonneg_of_strictFloat runtime_read
  · simp only [SessionContext.instants, List.forall_mem_cons]
    exact ⟨isDatetime_of_isoToDt start_read, isDatetime_of_isoToDt intent_read,
      isDatetime_of_isoToDt commanded_read, isDatetime_of_isoToDt confirmed_read,
      isDatetime_of_isoToDt ends_read, isDatetime_of_isoToDt off_read,
      isDatetime_of_isoToDt soak_read, isDatetime_of_isoToDt notBefore_read,
      isDatetime_of_isoToDt grace_read, by simp⟩

structure PersistedSession.Strict (py : PyRuntime) (session : PersistedSession) : Prop where
  owner : session.ownerSafetyRecordId ≠ ""
  context : session.context.Strict py

theorem filter_persistedSessionToDict (session : PersistedSession) :
    ((persistedSessionToDict py session).filter fun entry =>
      entry.1 ≠ "owner_safety_record_id") = sessionToDict py session.context := by
  simp [persistedSessionToDict, sessionToDict]

theorem persistedSessionFromDict_persistedSessionToDict {session : PersistedSession}
    (strict : session.Strict py) :
    persistedSessionFromDict py (.dict (persistedSessionToDict py session)) =
      .ok session.persisted := by
  have owner : field (persistedSessionToDict py session) "owner_safety_record_id" =
      .str session.ownerSafetyRecordId := by
    simp [persistedSessionToDict, sessionToDict]
  simp only [persistedSessionFromDict, owner, strictString_str _ strict.owner, Except.ok_bind,
    filter_persistedSessionToDict, sessionFromDict_sessionToDict strict.context,
    Except.pure_eq_ok]
  rfl

theorem strict_of_persistedSessionFromDict {raw : Payload} {session : PersistedSession}
    (read : persistedSessionFromDict py raw = .ok session) :
    session.Strict py ∧ session.persisted = session := by
  unfold persistedSessionFromDict at read
  split at read
  · simp only [Except.bind_eq_ok_iff, Except.pure_eq_ok, Except.ok.injEq] at read
    obtain ⟨owner, owner_read, context, context_read, rfl⟩ := read
    obtain ⟨strict, unchanged⟩ := strict_of_sessionFromDict context_read
    exact ⟨⟨ne_empty_of_strictString owner_read, strict⟩, by
      simp only [PersistedSession.persisted, unchanged]⟩
  · cases read

/-! ## Session summaries -/

/-- What the strict reader demands of a summary. -/
structure SessionSummary.Strict (py : PyRuntime) (summary : SessionSummary) : Prop where
  runtimeS : 0 ≤ summary.runtimeS
  startedAtUtc : py.IsDatetime summary.startedAtUtc
  endedAtUtc : py.IsDatetime summary.endedAtUtc

theorem summaryFromDict_summaryToDict {summary : SessionSummary} (strict : summary.Strict py) :
    summaryFromDict py (.dict (summaryToDict py summary)) = .ok summary := by
  have started : ∀ instant ∈ some summary.startedAtUtc, py.IsDatetime instant := by
    rintro _ ⟨rfl⟩
    exact strict.startedAtUtc
  have ended : ∀ instant ∈ some summary.endedAtUtc, py.IsDatetime instant := by
    rintro _ ⟨rfl⟩
    exact strict.endedAtUtc
  unfold summaryFromDict
  rw [requireExactKeys_eq_ok]
  case same => rfl
  simp only [summaryToDict, Payload.field_cons, String.reduceEq, ↓reduceIte, Except.ok_bind,
    isoToDt_dtToIso _ started, isoToDt_dtToIso _ ended, required, listOf, enumOf_ofEnum,
    strictFloat_float _ strict.runtimeS, strictBool_bool, floatOrNone_ofOption, mapM_enumOf,
    strictInt_int _ (Nat.zero_le summary.cycles), Except.pure_eq_ok, rewrap_ok]

theorem strict_of_summaryFromDict {raw : Payload} {summary : SessionSummary}
    (read : summaryFromDict py raw = .ok summary) : summary.Strict py := by
  simp only [summaryFromDict, Except.bind_eq_ok_iff, rewrap_eq_ok_iff, Except.pure_eq_ok,
    Except.ok.injEq] at read
  obtain ⟨data, -, start, start_read, finish, finish_read, started, start_given, ended,
    finish_given, clampRaw, -, mode, -, reason, -, runtime, runtime_read, estimated, -,
    estimationReason, -, requested, -, effective, -, clamps, -, cycles, -, before, -, after, -,
    rfl⟩ := read
  obtain rfl := eq_of_required start_given
  obtain rfl := eq_of_required finish_given
  constructor
  · exact nonneg_of_strictFloat runtime_read
  · exact isDatetime_of_isoToDt start_read started rfl
  · exact isDatetime_of_isoToDt finish_read ended rfl

/-! ## Identities and the applied shadow -/

theorem construct_of_holds {α : Type} {guards : α → List (Bool × String)} {value : α}
    (holds : Checked.Holds (guards value)) : construct guards value = .ok value :=
  construct_eq_ok_iff.mpr ⟨holds, rfl⟩

theorem sensorIdentityFromDict_sensorIdentityToDict {identity : SensorIdentity}
    (holds : Checked.Holds identity.guards) :
    sensorIdentityFromDict py (.dict (sensorIdentityToDict identity)) = .ok identity := by
  have checked := holds
  simp only [SensorIdentity.guards, Checked.holds_cons, Bool.or_eq_false_iff,
    decide_eq_false_iff_not] at checked
  obtain ⟨⟨registry, entity⟩, -⟩ := checked
  unfold sensorIdentityFromDict
  rw [requireExactKeys_eq_ok]
  case same => rfl
  simp only [sensorIdentityToDict, Payload.field_cons, String.reduceEq, ↓reduceIte,
    Except.ok_bind, strictStringOrNull_ofOption _ registry,
    strictStringOrNull_ofOption _ entity, construct_of_holds holds]

theorem appliedIdentityFromDict_appliedIdentityToDict {identity : AppliedEntityIdentity}
    (context : String) (holds : Checked.Holds identity.guards) (domain : identity.domain ≠ "") :
    appliedIdentityFromDict py (.dict (appliedIdentityToDict identity)) context =
      .ok identity := by
  have checked := holds
  simp only [AppliedEntityIdentity.guards, Checked.holds_cons, Bool.or_eq_false_iff,
    decide_eq_false_iff_not] at checked
  unfold appliedIdentityFromDict
  rw [requireExactKeys_eq_ok]
  case same => rfl
  simp only [appliedIdentityToDict, Payload.field_cons, String.reduceEq, ↓reduceIte,
    Except.ok_bind, strictStringOrNull_ofOption _ checked.2.1,
    strictString_str _ checked.1.1, strictString_str _ domain, construct_of_holds holds]

/-- What the strict reader demands of an actuator identity beyond its check. -/
def ActuatorIdentity.Strict (identity : ActuatorIdentity) : Prop :=
  ∀ timeout ∈ identity.confirmTimeoutS, ∃ number : ℕ, timeout = number

theorem strictTimeout_ofOption {timeout : Option Seconds} (name : String)
    (whole : ∀ value ∈ timeout, ∃ number : ℕ, value = number)
    (positive : ∀ value ∈ timeout, 0 < value) :
    strictTimeout (ofOption ofWhole timeout) name = .ok timeout := by
  cases timeout with
  | none => rfl
  | some value =>
    obtain ⟨number, rfl⟩ := whole value rfl
    have enough : 1 ≤ number := by exact_mod_cast positive _ rfl
    simp [ofOption, strictTimeout, strictInt_int name enough, Except.map]

theorem whole_of_strictTimeout {raw : Payload} {name : String} {timeout : Option Seconds}
    (read : strictTimeout raw name = .ok timeout) :
    ∀ value ∈ timeout, ∃ number : ℕ, value = number := by
  rintro value rfl
  unfold strictTimeout at read
  split at read
  · cases read
  · cases number : strictInt raw name 1 with
    | error err => simp [number, Except.map] at read
    | ok whole =>
      refine ⟨whole, ?_⟩
      simpa [number, Except.map, eq_comm] using read

theorem actuatorIdentityFromDict_actuatorIdentityToDict {identity : ActuatorIdentity}
    (holds : Checked.Holds identity.guards) (strict : identity.Strict) :
    actuatorIdentityFromDict py (.dict (actuatorIdentityToDict identity)) = .ok identity := by
  have checked := holds
  simp only [ActuatorIdentity.guards, Checked.holds_cons, Bool.or_eq_false_iff,
    decide_eq_false_iff_not] at checked
  obtain ⟨⟨registry, entity⟩, domains, -, service, timeouts, -⟩ := checked
  have domain : identity.domain ≠ some "" := by
    intro empty
    simp [empty, switchDomain, valveDomain] at domains
  have offService : identity.offService ≠ some "" := by
    rw [not_not.mp service, offServiceOf]
    split
    · simp
    · split <;> simp
  have positive : ∀ value ∈ identity.confirmTimeoutS, 0 < value := by
    rintro value held
    rw [Option.mem_def] at held
    simpa [held] using timeouts
  unfold actuatorIdentityFromDict
  rw [requireExactKeys_eq_ok]
  case same => rfl
  simp only [actuatorIdentityToDict, Payload.field_cons, String.reduceEq, ↓reduceIte,
    Except.ok_bind, strictStringOrNull_ofOption _ registry,
    strictStringOrNull_ofOption _ entity, strictStringOrNull_ofOption _ domain,
    enumOf_ofEnum, strictStringOrNull_ofOption _ offService,
    strictTimeout_ofOption _ strict positive, construct_of_holds holds]

theorem strict_of_actuatorIdentityFromDict {raw : Payload} {identity : ActuatorIdentity}
    (read : actuatorIdentityFromDict py raw = .ok identity) : identity.Strict := by
  simp only [actuatorIdentityFromDict, Except.bind_eq_ok_iff, construct_eq_ok_iff] at read
  obtain ⟨data, -, registry, -, entity, -, domain, -, status, -, service, -, timeout,
    timeout_read, -, rfl⟩ := read
  exact whole_of_strictTimeout timeout_read

/-- The settings that the source types as `int`, apart from the cycle count. -/
def NormalizedZoneSettings.wholes (settings : NormalizedZoneSettings) : List Seconds :=
  [settings.pulseDurationS, settings.soakDurationS, settings.maxSessionRuntimeS,
   settings.maxDailyRuntimeS, settings.minSessionIntervalS, settings.sensorMaxAgeS,
   settings.actuatorConfirmTimeoutS, settings.manualMaxDurationS]

/-- What the strict reader demands of the settings. -/
structure NormalizedZoneSettings.Strict (settings : NormalizedZoneSettings) : Prop where
  name : settings.name ≠ ""
  startThreshold : 0 ≤ settings.startThreshold
  targetThreshold : 0 ≤ settings.targetThreshold
  wholes : ∀ value ∈ settings.wholes, ∃ number : ℕ, value = number

theorem settingsFromDict_asDict {settings : NormalizedZoneSettings}
    (strict : settings.Strict) : settingsFromDict py (.dict settings.asDict) = .ok settings := by
  obtain ⟨named, start, target, wholes⟩ := strict
  obtain ⟨name, startThreshold, targetThreshold, pulse, soak, maxCycles, sessionLimit, dailyLimit,
    interval, age, timeout, manual⟩ := settings
  simp only [NormalizedZoneSettings.wholes, List.forall_mem_cons] at wholes
  obtain ⟨⟨pulse, rfl⟩, ⟨soak, rfl⟩, ⟨sessionLimit, rfl⟩, ⟨dailyLimit, rfl⟩, ⟨interval, rfl⟩,
    ⟨age, rfl⟩, ⟨timeout, rfl⟩, ⟨manual, rfl⟩, -⟩ := wholes
  unfold settingsFromDict
  rw [requireExactKeys_eq_ok]
  case same => rfl
  simp only [NormalizedZoneSettings.asDict, Payload.field_cons, String.reduceEq, ↓reduceIte,
    Except.ok_bind, strictString_str _ named, strictFloat_float _ start,
    strictFloat_float _ target, Payload.ofWhole_natCast, strictInt_int _ (Nat.zero_le _),
    Except.pure_eq_ok]

theorem strict_of_settingsFromDict {raw : Payload} {settings : NormalizedZoneSettings}
    (read : settingsFromDict py raw = .ok settings) : settings.Strict := by
  simp only [settingsFromDict, Except.bind_eq_ok_iff, Except.pure_eq_ok,
    Except.ok.injEq] at read
  obtain ⟨data, -, name, name_read, start, start_read, target, target_read, pulse, -, soak, -,
    cycles, -, sessionLimit, -, dailyLimit, -, interval, -, age, -, timeout, -, manual, -,
    rfl⟩ := read
  constructor
  · exact ne_empty_of_strictString name_read
  · exact nonneg_of_strictFloat start_read
  · exact nonneg_of_strictFloat target_read
  · simp only [NormalizedZoneSettings.wholes, List.forall_mem_cons]
    exact ⟨⟨pulse, rfl⟩, ⟨soak, rfl⟩, ⟨sessionLimit, rfl⟩, ⟨dailyLimit, rfl⟩, ⟨interval, rfl⟩,
      ⟨age, rfl⟩, ⟨timeout, rfl⟩, ⟨manual, rfl⟩, by simp⟩

theorem shadowFromDict_shadowToDict {shadow : AppliedConfigurationShadow}
    (holds : Checked.Holds shadow.guards) (strict : shadow.normalizedSettings.Strict) :
    shadowFromDict py (.dict (shadowToDict shadow)) = .ok shadow := by
  have checked := holds
  simp only [AppliedConfigurationShadow.guards, Checked.holds_append, Checked.holds_cons,
    Bool.or_eq_false_iff, decide_eq_false_iff_not] at checked
  obtain ⟨⟨sensor, actuator⟩, ⟨⟨subentry, fingerprint⟩, snapshot⟩, sensorDomains,
    actuatorDomains, -⟩ := checked
  have sensorFilled : shadow.sensorIdentity.domain ≠ "" := by
    rw [not_not.mp sensorDomains]
    decide +kernel
  have actuatorFilled : shadow.actuatorIdentity.domain ≠ "" := by
    intro empty
    simp [empty, switchDomain, valveDomain] at actuatorDomains
  unfold shadowFromDict
  rw [requireExactKeys_eq_ok]
  case same => rfl
  simp only [shadowToDict, Payload.field_cons, String.reduceEq, ↓reduceIte, Except.ok_bind,
    strictString_str _ subentry, strictString_str _ fingerprint, strictString_str _ snapshot,
    strictInt_int _ (Nat.zero_le shadow.appliedGeneration), settingsFromDict_asDict strict,
    appliedIdentityFromDict_appliedIdentityToDict _ sensor sensorFilled,
    appliedIdentityFromDict_appliedIdentityToDict _ actuator actuatorFilled,
    construct_of_holds holds]

theorem strict_of_shadowFromDict {raw : Payload} {shadow : AppliedConfigurationShadow}
    (read : shadowFromDict py raw = .ok shadow) : shadow.normalizedSettings.Strict := by
  simp only [shadowFromDict, Except.bind_eq_ok_iff, construct_eq_ok_iff] at read
  obtain ⟨data, -, subentry, -, fingerprint, -, snapshot, -, generation, -, settings,
    settings_read, sensor, -, actuator, -, -, rfl⟩ := read
  exact strict_of_settingsFromDict settings_read

/-! ## Daily runtime -/

/-- What the strict reader demands of a contribution beyond its check. -/
structure AccountingContribution.Strict (py : PyRuntime)
    (contribution : AccountingContribution) : Prop where
  startUtc : ∀ instant ∈ contribution.startUtc, py.IsDatetime instant
  endUtc : ∀ instant ∈ contribution.endUtc, py.IsDatetime instant
  localDate : ∀ day ∈ contribution.localDate, py.IsDate day

theorem parseDate_dateIsoformat {day : LocalDate} (date : py.IsDate day) :
    parseDate py (py.dateIsoformat day) = .ok day := by
  simp [parseDate, py.dateFromisoformat_dateIsoformat day date]

theorem contributionFromDict_contributionToDict {contribution : AccountingContribution}
    (holds : Checked.Holds contribution.guards) (strict : contribution.Strict py) :
    contributionFromDict py (.dict (contributionToDict py contribution)) = .ok contribution := by
  have checked := holds
  simp only [AccountingContribution.guards, Checked.holds_cons, Bool.or_eq_false_iff,
    decide_eq_false_iff_not] at checked
  obtain ⟨⟨identified, sourced⟩, runtime, -⟩ := checked
  unfold contributionFromDict
  rw [requireExactKeys_eq_ok]
  case same => rfl
  simp only [contributionToDict, Payload.field_cons, String.reduceEq, ↓reduceIte,
    Except.ok_bind, strictString_str _ identified, strictString_str _ sourced,
    isoToDt_dtToIso _ strict.startUtc, isoToDt_dtToIso _ strict.endUtc,
    strictFloat_float _ (not_lt.mp runtime), strictBool_bool]
  -- a missing day is null, a given one is read from its text
  cases dated : contribution.localDate with
  | none =>
    simp only [ofOption, dateText, optionalDate, Except.ok_bind]
    rw [← dated]
    exact construct_of_holds holds
  | some day =>
    have date := strict.localDate day dated
    simp only [ofOption, dateText, optionalDate, Except.ok_bind, parseDate_dateIsoformat date,
      Except.map]
    rw [← dated]
    exact construct_of_holds holds

theorem strict_of_contributionFromDict {raw : Payload} {contribution : AccountingContribution}
    (read : contributionFromDict py raw = .ok contribution) : contribution.Strict py := by
  simp only [contributionFromDict, Except.bind_eq_ok_iff, construct_eq_ok_iff] at read
  obtain ⟨data, -, text, -, identified, -, sourced, -, start, start_read, finish, finish_read,
    runtime, -, estimated, -, day, day_read, -, rfl⟩ := read
  refine ⟨isDatetime_of_isoToDt start_read, isDatetime_of_isoToDt finish_read, ?_⟩
  rintro found rfl
  cases text with
  | none => cases day_read
  | some text =>
    cases parsed : parseDate py text with
    | error err => simp [optionalDate, parsed, Except.map] at day_read
    | ok value =>
      obtain rfl : value = found := by simpa [optionalDate, parsed, Except.map] using day_read
      exact isDate_of_parseDate parsed

/-- What the strict reader demands of a day beyond its check. -/
structure ZoneDailyRuntime.Strict (py : PyRuntime) (daily : ZoneDailyRuntime) : Prop where
  dateLocal : py.IsDate daily.dateLocal
  contributions : ∀ contribution ∈ daily.contributions, contribution.Strict py

theorem dailyFromDict_dailyToDict {daily : ZoneDailyRuntime}
    (holds : Checked.Holds daily.guards) (strict : daily.Strict py) :
    dailyFromDict py (.dict (dailyToDict py daily)) = .ok daily := by
  have checked := holds
  simp only [ZoneDailyRuntime.guards, Checked.holds_append, Checked.holds_cons,
    Checked.holds_flatMap, decide_eq_false_iff_not] at checked
  obtain ⟨⟨runtime, unattributed, -⟩, contributions⟩ := checked
  have members : (daily.contributions.map fun contribution =>
      Payload.dict (contributionToDict py contribution)).mapM (contributionFromDict py) =
      .ok daily.contributions := by
    have read : (daily.contributions.map fun contribution =>
        Payload.dict (contributionToDict py contribution)).mapM (contributionFromDict py) =
        .ok (daily.contributions.map id) :=
      Codec.mapM_map_eq_ok fun contribution member =>
        contributionFromDict_contributionToDict (contributions contribution member)
          (strict.contributions contribution member)
    rwa [List.map_id] at read
  unfold dailyFromDict
  rw [requireExactKeys_eq_ok]
  case same => rfl
  simp only [dailyToDict, Payload.field_cons, String.reduceEq, ↓reduceIte, Except.ok_bind,
    textOf, listOf, parseDate_dateIsoformat strict.dateLocal, strictFloat_float _ (not_lt.mp runtime),
    strictFloat_float _ (not_lt.mp unattributed), members, construct_of_holds holds]

theorem strict_of_dailyFromDict {raw : Payload} {daily : ZoneDailyRuntime}
    (read : dailyFromDict py raw = .ok daily) : daily.Strict py := by
  simp only [dailyFromDict, Except.bind_eq_ok_iff, construct_eq_ok_iff] at read
  obtain ⟨data, -, text, -, contributionsRaw, -, day, day_read, runtime, -, unattributed, -,
    contributions, contributions_read, -, rfl⟩ := read
  exact ⟨isDate_of_parseDate day_read, Codec.forall_of_mapM_eq_ok
    (fun _ _ => strict_of_contributionFromDict) contributions_read⟩

/-! ## Nullable objects and lists of strings -/

theorem objectOrNull_ofOption {α : Type} {readObject : Payload → Except DecodeError α}
    {write : α → List (String × Payload)} {normal : α → α} {value : Option α}
    (inverts : ∀ given ∈ value, readObject (.dict (write given)) = .ok (normal given)) :
    objectOrNull readObject (ofOption (fun given => .dict (write given)) value) =
      .ok (value.map normal) := by
  cases value with
  | none => rfl
  | some given => simp [ofOption, objectOrNull, inverts given rfl, Except.map]

theorem of_objectOrNull {α : Type} {readObject : Payload → Except DecodeError α} {P : α → Prop}
    {raw : Payload} {value : Option α} (sound : ∀ raw given, readObject raw = .ok given → P given)
    (read : objectOrNull readObject raw = .ok value) : ∀ given ∈ value, P given := by
  rintro given rfl
  unfold objectOrNull at read
  split at read
  · cases read
  · cases object : readObject raw with
    | error err => simp [object, Except.map] at read
    | ok found =>
      obtain rfl : found = given := by simpa [object, Except.map] using read
      exact sound _ _ object

theorem stringTuple_str {texts : List String} (name : String) (filled : "" ∉ texts)
    (nodup : texts.Nodup) :
    stringTuple (fun item => strictString item name) (.list (texts.map .str)) name =
      .ok texts := by
  refine stringTuple_list name (fun text member => strictString_str name ?_) nodup
  rintro rfl
  exact filled member

/-! ## Zone histories -/

/-- What the strict reader demands of a zone history beyond its check. -/
structure ZoneHistory.Strict (py : PyRuntime) (history : ZoneHistory) : Prop where
  lastSessionEndUtc : ∀ instant ∈ history.lastSessionEndUtc, py.IsDatetime instant
  lastAutoSessionStartUtc : ∀ instant ∈ history.lastAutoSessionStartUtc, py.IsDatetime instant
  daily : ∀ daily ∈ history.daily, daily.Strict py
  summary : ∀ summary ∈ history.zoneRuntime.lastSessionSummary, summary.Strict py
  session : ∀ session ∈ history.zoneRuntime.session, session.Strict py

theorem ZoneRuntime.guards_persisted (history : ZoneHistory) :
    history.persisted.zoneRuntime.guards = history.zoneRuntime.guards := by
  cases held : history.zoneRuntime.session <;>
    simp [ZoneHistory.persisted, ZoneRuntime.guards, held, PersistedSession.persisted]

theorem ZoneHistory.guards_persisted (history : ZoneHistory) :
    history.persisted.guards = history.guards := by
  rw [ZoneHistory.guards, ZoneRuntime.guards_persisted]
  rfl

theorem idHistory_filled {stableId context : String} {active : Option String}
    {previous : List String}
    (holds : Checked.Holds (idHistoryGuards stableId active previous context)) :
    stableId ≠ "" ∧ active ≠ some "" ∧ "" ∉ previous ∧ previous.Nodup := by
  simp only [idHistoryGuards, Checked.holds_cons, Bool.or_eq_false_iff,
    decide_eq_false_iff_not, Bool.not_eq_false', decide_eq_true_eq] at holds
  obtain ⟨stable, ⟨filled, others⟩, nodup, -⟩ := holds
  refine ⟨stable, filled, fun member => ?_, nodup⟩
  have empty : (previous.any fun value => decide (value = "")) = true :=
    List.any_eq_true.mpr ⟨"", member, by simp⟩
  rw [empty] at others
  cases others

theorem zoneHistoryFromDict_zoneHistoryToDict {history : ZoneHistory}
    (holds : Checked.Holds history.guards) (strict : history.Strict py) :
    zoneHistoryFromDict py history.zoneHistoryId (.dict (zoneHistoryToDict py history)) =
      .ok history.persisted := by
  have checked := holds
  simp only [ZoneHistory.guards, Checked.holds_append, Checked.holds_flatMap,
    Option.mem_toList] at checked
  obtain ⟨⟨runtime, days⟩, ids⟩ := checked
  obtain ⟨stable, active, previous, nodup⟩ := idHistory_filled ids
  have sensor : Checked.Holds history.zoneRuntime.sensorIdentity.guards := by
    simp only [ZoneRuntime.guards, Checked.holds_append] at runtime
    exact runtime.1.2
  have daily : objectOrNull (dailyFromDict py)
      (ofOption (fun daily => .dict (dailyToDict py daily)) history.daily) =
      .ok (history.daily.map id) :=
    objectOrNull_ofOption fun daily given =>
      dailyFromDict_dailyToDict (days daily given) (strict.daily daily given)
  have summary : objectOrNull (summaryFromDict py)
      (ofOption (fun summary => .dict (summaryToDict py summary))
        history.zoneRuntime.lastSessionSummary) =
      .ok (history.zoneRuntime.lastSessionSummary.map id) :=
    objectOrNull_ofOption fun summary given =>
      summaryFromDict_summaryToDict (strict.summary summary given)
  have session : objectOrNull (persistedSessionFromDict py)
      (ofOption (fun session => .dict (persistedSessionToDict py session))
        history.zoneRuntime.session) =
      .ok (history.zoneRuntime.session.map PersistedSession.persisted) :=
    objectOrNull_ofOption fun session given =>
      persistedSessionFromDict_persistedSessionToDict (strict.session session given)
  have runtimeHolds : Checked.Holds history.persisted.zoneRuntime.guards := by
    rw [ZoneRuntime.guards_persisted]
    exact runtime
  have historyHolds : Checked.Holds history.persisted.guards := by
    rw [ZoneHistory.guards_persisted]
    exact holds
  rw [Option.map_id] at daily summary
  unfold zoneHistoryFromDict
  rw [requireExactKeys_eq_ok]
  case same => rfl
  simp only [mapId, if_neg stable, zoneHistoryToDict, Payload.field_cons, String.reduceEq,
    ↓reduceIte, Except.ok_bind]
  rw [requireExactKeys_eq_ok]
  case same => rfl
  simp only [zoneRuntimeToDict, Payload.field_cons, String.reduceEq, ↓reduceIte,
    Except.ok_bind, daily, strictStringOrNull_ofOption _ active,
    stringTuple_str _ previous nodup, isoToDt_dtToIso _ strict.lastSessionEndUtc,
    isoToDt_dtToIso _ strict.lastAutoSessionStartUtc, strictBool_bool, enumOf_ofEnum,
    enumOrNone_ofOption, sensorIdentityFromDict_sensorIdentityToDict sensor, summary, session,
    id_eq]
  exact Except.bind_eq_ok_iff.mpr ⟨history.persisted.zoneRuntime,
    construct_of_holds runtimeHolds, construct_of_holds historyHolds⟩

theorem strict_of_zoneHistoryFromDict {historyId : String} {raw : Payload}
    {history : ZoneHistory} (read : zoneHistoryFromDict py historyId raw = .ok history) :
    history.zoneHistoryId = historyId ∧ history.Strict py ∧ history.persisted = history := by
  simp only [zoneHistoryFromDict, Except.bind_eq_ok_iff, construct_eq_ok_iff] at read
  obtain ⟨stableId, stable, data, -, runtimeRaw, -, daily, daily_read, active, -, previous, -,
    lastEnd, lastEnd_read, lastStart, lastStart_read, enabled, -, state, -, zoneFault, -,
    secondary, -, sensor, -, summary, summary_read, session, session_read, runtime,
    ⟨-, rfl⟩, -, rfl⟩ := read
  have identified : stableId = historyId := by
    unfold mapId at stable
    split at stable
    · cases stable
    · exact (Except.ok.inj stable).symm
  have sessions := of_objectOrNull (fun _ _ => strict_of_persistedSessionFromDict) session_read
  have unchanged : session.map PersistedSession.persisted = session := by
    cases session with
    | none => rfl
    | some given => rw [Option.map_some, (sessions given rfl).2]
  refine ⟨identified, ⟨?_, ?_, ?_, ?_, ?_⟩, ?_⟩
  · exact isDatetime_of_isoToDt lastEnd_read
  · exact isDatetime_of_isoToDt lastStart_read
  · exact of_objectOrNull (fun _ _ => strict_of_dailyFromDict) daily_read
  · exact of_objectOrNull (fun _ _ => strict_of_summaryFromDict) summary_read
  · exact fun given held => (sessions given held).1
  · simp only [ZoneHistory.persisted, unchanged]

/-! ## Safety records -/

/-- What the strict reader demands of a removed-actuator proof beyond its check. -/
structure RemovedActuatorAcknowledgement.Strict (py : PyRuntime)
    (ack : RemovedActuatorAcknowledgement) : Prop where
  acknowledgedAtUtc : py.IsDatetime ack.acknowledgedAtUtc
  lastKnownEntityId : ack.lastKnownEntityId ≠ some ""

theorem removedAckFromDict_removedAckToDict {ack : RemovedActuatorAcknowledgement}
    (holds : Checked.Holds ack.guards) (strict : ack.Strict py) :
    removedAckFromDict py (.dict (removedAckToDict py ack)) = .ok ack := by
  have registry : ack.registryEntryId ≠ "" := by
    simpa [RemovedActuatorAcknowledgement.guards] using holds
  have acknowledged : ∀ instant ∈ some ack.acknowledgedAtUtc, py.IsDatetime instant := by
    rintro _ ⟨rfl⟩
    exact strict.acknowledgedAtUtc
  unfold removedAckFromDict
  rw [requireExactKeys_eq_ok]
  case same => rfl
  simp only [removedAckToDict, Payload.field_cons, String.reduceEq, ↓reduceIte, Except.ok_bind,
    isoToDt_dtToIso _ acknowledged, requireDt, strictString_str _ registry,
    strictStringOrNull_ofOption _ strict.lastKnownEntityId, construct_of_holds holds]

theorem strict_of_removedAckFromDict {raw : Payload} {ack : RemovedActuatorAcknowledgement}
    (read : removedAckFromDict py raw = .ok ack) : ack.Strict py := by
  simp only [removedAckFromDict, Except.bind_eq_ok_iff, construct_eq_ok_iff] at read
  obtain ⟨data, -, acknowledged, acknowledged_read, instant, given, registry, -, entity,
    entity_read, -, rfl⟩ := read
  obtain rfl := eq_of_requireDt given
  exact ⟨isDatetime_of_isoToDt acknowledged_read instant rfl,
    ne_empty_of_strictStringOrNull entity_read⟩

theorem incidentFromDict_incidentToDict {incident : IdentityIncident}
    (holds : Checked.Holds incident.guards) :
    incidentFromDict py (.dict (incidentToDict incident)) = .ok incident := by
  have detail : incident.detail ≠ "" := by
    simpa [IdentityIncident.guards] using holds
  unfold incidentFromDict
  rw [requireExactKeys_eq_ok]
  case same => rfl
  simp only [incidentToDict, Payload.field_cons, String.reduceEq, ↓reduceIte, Except.ok_bind,
    enumOf_ofEnum, strictString_str _ detail, construct_of_holds holds]

/-- What the strict reader demands of a safety record beyond its check. -/
structure SafetyRecord.Strict (py : PyRuntime) (record : SafetyRecord) : Prop where
  historical : "" ∉ record.historicalZoneHistoryIds
  settings : ∀ shadow ∈ record.appliedConfig, shadow.normalizedSettings.Strict
  actuatorIdentity : record.actuatorIdentity.Strict
  removedAck : ∀ ack ∈ record.removedActuatorAck, ack.Strict py

theorem safetyRecordFromDict_safetyRecordToDict {record : SafetyRecord}
    (holds : Checked.Holds record.guards) (strict : record.Strict py) :
    safetyRecordFromDict py record.safetyRecordId (.dict (safetyRecordToDict py record)) =
      .ok record := by
  have checked := holds
  simp only [SafetyRecord.guards, Checked.holds_append, Checked.holds_cons,
    Checked.holds_flatMap, Option.mem_toList, Bool.or_eq_false_iff,
    decide_eq_false_iff_not, Bool.not_eq_false', decide_eq_true_eq] at checked
  obtain ⟨⟨⟨⟨⟨shadows, actuator⟩, incidents⟩, acks⟩, ids⟩, ⟨⟨zone, lineage⟩, history⟩,
    historicalNodup, -, blockersNodup, -⟩ := checked
  obtain ⟨stable, active, previous, nodup⟩ := idHistory_filled ids
  have shadow : objectOrNull (shadowFromDict py)
      (ofOption (fun shadow => .dict (shadowToDict shadow)) record.appliedConfig) =
      .ok (record.appliedConfig.map id) :=
    objectOrNull_ofOption fun shadow given =>
      shadowFromDict_shadowToDict (shadows shadow given) (strict.settings shadow given)
  have incident : objectOrNull (incidentFromDict py)
      (ofOption (fun incident => .dict (incidentToDict incident)) record.identityIncident) =
      .ok (record.identityIncident.map id) :=
    objectOrNull_ofOption fun incident given =>
      incidentFromDict_incidentToDict (incidents incident given)
  have ack : objectOrNull (removedAckFromDict py)
      (ofOption (fun ack => .dict (removedAckToDict py ack)) record.removedActuatorAck) =
      .ok (record.removedActuatorAck.map id) :=
    objectOrNull_ofOption fun ack given =>
      removedAckFromDict_removedAckToDict (acks ack given) (strict.removedAck ack given)
  have blockers : stringTuple (enumOf py BlockerReason)
      (.list (record.blockerReasons.map ofEnum)) "safety_record.blocker_reasons" =
      .ok record.blockerReasons :=
    stringTuple_list _ (fun reason _ => enumOf_ofEnum reason) blockersNodup
  rw [Option.map_id] at shadow incident ack
  unfold safetyRecordFromDict
  rw [requireExactKeys_eq_ok]
  case same => rfl
  simp only [mapId, if_neg stable, safetyRecordToDict, Payload.field_cons, String.reduceEq,
    ↓reduceIte, Except.ok_bind, ack, incident, strictString_str _ zone,
    strictStringOrNull_ofOption _ active, stringTuple_str _ previous nodup,
    strictString_str _ lineage, strictString_str _ history,
    stringTuple_str _ strict.historical historicalNodup, enumOf_ofEnum, shadow,
    actuatorIdentityFromDict_actuatorIdentityToDict actuator strict.actuatorIdentity, blockers,
    enumOrNone_ofOption, strictBool_bool, id_eq]
  exact construct_of_holds holds

theorem strict_of_safetyRecordFromDict {recordId : String} {raw : Payload}
    {record : SafetyRecord} (read : safetyRecordFromDict py recordId raw = .ok record) :
    record.safetyRecordId = recordId ∧ record.Strict py := by
  simp only [safetyRecordFromDict, Except.bind_eq_ok_iff, construct_eq_ok_iff] at read
  obtain ⟨stableId, stable, data, -, ack, ack_read, incident, -, zone, -, active, -, previous, -,
    lineage, -, history, -, historical, historical_read, lifecycle, -, shadow, shadow_read,
    actuator, actuator_read, blockers, -, owner, -, fault, -, acknowledgement, -, -, rfl⟩ := read
  have identified : stableId = recordId := by
    unfold mapId at stable
    split at stable
    · cases stable
    · exact (Except.ok.inj stable).symm
  have filled := of_stringTuple (fun _ _ => ne_empty_of_strictString) historical_read
  refine ⟨identified, ⟨fun member => filled.2 _ member rfl, ?_, ?_, ?_⟩⟩
  · exact of_objectOrNull (fun _ _ => strict_of_shadowFromDict) shadow_read
  · exact strict_of_actuatorIdentityFromDict actuator_read
  · exact of_objectOrNull (fun _ _ => strict_of_removedAckFromDict) ack_read

end MoistureLoop
