import MoistureLoop.Runtime.PlanRecords
import MoistureLoop.Store.Transactions

/-! # The transactions of the entry runtime

What the runtime itself writes to the store, apart from the writes of its controllers and the
run-ID protocol.  None of them opens a session: each keeps the sessions of the snapshot,
drops some, or restores one that was read from an earlier snapshot. -/

namespace MoistureLoop

open Checked (Holds)

/-! ## The sessions of a snapshot -/

/-- A session by its ID and by the run that owns it. -/
abbrev SessionIds := String × String

def PersistedSession.ids (persisted : PersistedSession) : SessionIds :=
  (persisted.context.sessionId, persisted.context.ownerRunId)

def ZoneHistory.sessionIds (history : ZoneHistory) : Option SessionIds :=
  history.zoneRuntime.session.map PersistedSession.ids

def sessionsOf (histories : Dict String ZoneHistory) : List SessionIds :=
  histories.values.filterMap ZoneHistory.sessionIds

def StoreFields.sessions (data : StoreFields) : List SessionIds :=
  sessionsOf data.zoneHistories

variable {histories histories' : Dict String ZoneHistory} {history : ZoneHistory} {ids : SessionIds}

theorem mem_sessionsOf_iff : ids ∈ sessionsOf histories ↔
    ∃ k history, histories.get? k = some history ∧ history.sessionIds = some ids := by
  simp only [sessionsOf, List.mem_filterMap, Dict.mem_values_iff_get?]
  constructor
  · rintro ⟨history, ⟨k, found⟩, held⟩
    exact ⟨k, history, found, held⟩
  · rintro ⟨k, history, found, held⟩
    exact ⟨history, ⟨k, found⟩, held⟩

theorem mem_sessionsOf_of_get? {k : String} {persisted : PersistedSession}
    (found : histories.get? k = some history)
    (held : history.zoneRuntime.session = some persisted) : persisted.ids ∈ sessionsOf histories :=
  mem_sessionsOf_iff.mpr ⟨k, history, found, by simp [ZoneHistory.sessionIds, held]⟩

/-- Storing a history adds its session at most. -/
theorem mem_sessionsOf_set {k : String} (member : ids ∈ sessionsOf (histories.set k history)) :
    history.sessionIds = some ids ∨ ids ∈ sessionsOf histories := by
  obtain ⟨k', held, found, opened⟩ := mem_sessionsOf_iff.mp member
  by_cases same : k' = k
  · subst same
    rw [Dict.get?_set_self] at found
    exact .inl (Option.some.inj found ▸ opened)
  · rw [Dict.get?_set_of_ne _ _ same] at found
    exact .inr (mem_sessionsOf_iff.mpr ⟨k', held, found, opened⟩)

theorem sessionsOf_erase_subset {k : String} :
    sessionsOf (histories.erase k) ⊆ sessionsOf histories := by
  intro ids member
  obtain ⟨k', held, found, opened⟩ := mem_sessionsOf_iff.mp member
  by_cases same : k' = k
  · subst same
    rw [Dict.get?_erase_self] at found
    cases found
  · rw [Dict.get?_erase_of_ne _ same] at found
    exact mem_sessionsOf_iff.mpr ⟨k', held, found, opened⟩

/-- A history in place of one with the same session, or without one. -/
theorem sessionsOf_set_subset {k : String}
    (kept : ∀ ids, history.sessionIds = some ids → ∃ before, histories.get? k = some before ∧
      before.sessionIds = some ids) :
    sessionsOf (histories.set k history) ⊆ sessionsOf histories := by
  intro ids member
  rcases mem_sessionsOf_set member with own | other
  · obtain ⟨before, found, held⟩ := kept ids own
    exact mem_sessionsOf_iff.mpr ⟨k, before, found, held⟩
  · exact other

/-- Serialization keeps which sessions are open and whose they are. -/
theorem sessions_persisted (data : StoreFields) : data.persisted.sessions = data.sessions := by
  have same : ∀ history : ZoneHistory, history.persisted.sessionIds = history.sessionIds := by
    intro history
    simp only [ZoneHistory.sessionIds, ZoneHistory.persisted, Option.map_map]
    rfl
  simp only [StoreFields.sessions, sessionsOf, StoreFields.persisted, Dict.values, Dict.mapValues,
    List.map_map, List.filterMap_map]
  congr 1
  funext entry
  exact same entry.2

/-! ## The mutators of the runtime -/

/-- `_restore_terminal_reason`, with the session read from an earlier snapshot. -/
def restoreTerminalReason (zoneHistoryId : String) (persisted : PersistedSession)
    (data : StoreData) : Except PyError (Dict String SafetyRecord × Dict String ZoneHistory) := do
  let current ← getKey data.zoneHistories zoneHistoryId
  let restored := { persisted with context :=
    { persisted.context with pendingTerminationReason := some .actuatorFault } }
  let runtime ← checkValue ZoneRuntime.guards { current.zoneRuntime with session := some restored }
  let history ← checkValue ZoneHistory.guards { current with zoneRuntime := runtime }
  .ok (data.safetyRecords, data.zoneHistories.set zoneHistoryId history)

/-- `_clear`: a configuration fault that was resolved. -/
def clearConfigurationFault (safetyRecordId : String) (data : StoreData) :
    Except PyError (Dict String SafetyRecord × Dict String ZoneHistory) := do
  let record ← getKey data.safetyRecords safetyRecordId
  let current ← getKey data.zoneHistories record.zoneHistoryId
  if current.zoneRuntime.zoneFault ≠ some .configurationInvalid then
    .ok (data.safetyRecords, data.zoneHistories)
  else do
    let runtime ← checkValue ZoneRuntime.guards
      { current.zoneRuntime with
        state := if current.zoneRuntime.enabled then .idle else .disabled
        zoneFault := none }
    let history ← checkValue ZoneHistory.guards { current with zoneRuntime := runtime }
    .ok (data.safetyRecords, data.zoneHistories.set current.zoneHistoryId history)

/-! ## Transactions -/

inductive EntryTransaction where
  | plan (env : PlanEnv) (snapshot : ImmutableEntrySnapshot)
  | refreshTombstones (registry : EntityRegistry)
      (assessments : String → Option ActuatorAssessment)
  | restoreTerminalReason (zoneHistoryId : String) (persisted : PersistedSession)
  | clearConfigurationFault (safetyRecordId : String)
  | setRecordBlocker (safetyRecordId : String) (reason : BlockerReason) (active : Bool)
  | acknowledgeActuatorFault (safetyRecordId safetyLineageId : String) (expectedFault : FaultCode)
  | acknowledgeRemovedActuator (safetyRecordId safetyLineageId registryEntryId : String)
      (acknowledgedAtUtc : Instant)

namespace EntryTransaction

/-- The snapshot that the transaction saves; `none` when it saves nothing. -/
def result (data : StoreData) : EntryTransaction → Except PyError (Option StoreData)
  | .plan env snapshot => (reconcile data (planMutator env snapshot)).map some
  | .refreshTombstones registry assessments =>
    (reconcile data (MoistureLoop.refreshTombstones registry assessments)).map some
  | .restoreTerminalReason zoneHistoryId persisted =>
    (reconcile data (MoistureLoop.restoreTerminalReason zoneHistoryId persisted)).map some
  | .clearConfigurationFault safetyRecordId =>
    (reconcile data (MoistureLoop.clearConfigurationFault safetyRecordId)).map some
  | .setRecordBlocker safetyRecordId reason active =>
    MoistureLoop.setRecordBlocker data safetyRecordId reason active
  | .acknowledgeActuatorFault safetyRecordId safetyLineageId expectedFault =>
    (MoistureLoop.acknowledgeActuatorFault data safetyRecordId safetyLineageId expectedFault).map
      some
  | .acknowledgeRemovedActuator safetyRecordId safetyLineageId registryEntryId acknowledgedAtUtc =>
    (MoistureLoop.acknowledgeRemovedActuator data safetyRecordId safetyLineageId registryEntryId
      acknowledgedAtUtc).map some

/-- The session that the transaction takes from an earlier snapshot. -/
def restored : EntryTransaction → Option SessionIds
  | .restoreTerminalReason _ persisted => some persisted.ids
  | _ => none

end EntryTransaction

/-! ## A plan opens no session -/

theorem JoinedHistories.sessions {base joined : PlanState} {prior : Option SafetyRecord}
    {selected rejoined : SafetyRecord} (keyed : base.Keyed)
    (joining : JoinedHistories base prior selected joined rejoined) :
    sessionsOf joined.histories ⊆ sessionsOf base.histories := by
  cases joining with
  | same => exact List.Subset.refl _
  | @merged continuing retained merged kept other held held' closed merging kept' valid =>
    have distinct : continuing.zoneHistoryId ≠ retained.zoneHistoryId := by
      rw [keyed.histories _ continuing held, keyed.histories _ retained held']
      exact fun same => other same.symm
    obtain ⟨daily, -, rfl⟩ := mergeZoneHistoryContinuity_eq_ok distinct merging
    have written := @sessionsOf_set_subset base.histories
      { continuing with
        lastSessionEndUtc := latest continuing.lastSessionEndUtc retained.lastSessionEndUtc
        lastAutoSessionStartUtc :=
          latest continuing.lastAutoSessionStartUtc retained.lastAutoSessionStartUtc
        daily } _ fun ids opened => ⟨continuing, held, opened⟩
    rw [kept']
    split
    · exact written
    · exact List.Subset.trans sessionsOf_erase_subset written

theorem ZoneContinued.sessions {env : PlanEnv} {snapshot : ImmutableEntrySnapshot}
    {base next : PlanState} {prior : Option SafetyRecord} {exact : List SafetyRecord}
    {selected : SafetyRecord} {zone : ImmutableZoneSnapshot} {createdNew : Bool}
    (keyed : base.Keyed)
    (continued : ZoneContinued env snapshot base prior exact selected zone createdNew next) :
    sessionsOf next.histories ⊆ sessionsOf base.histories := by
  cases continued with
  | unjoined => exact List.Subset.refl _
  | @refused _ joined _ _ joining => exact @JoinedHistories.sessions base joined _ _ _ keyed joining
  | adopted joining adopted =>
    refine List.Subset.trans ?_ (joining.sessions keyed)
    rw [adopted.nextEq]
    refine sessionsOf_set_subset fun ids opened => ⟨_, adopted.held, ?_⟩
    rw [adopted.plannedEq] at opened
    have kept : ∀ (runtime : ZoneRuntime) (sensor : SensorIdentity) (same reevaluated : Bool)
        (rejoined : SafetyRecord),
        (plannedZoneRuntime env runtime rejoined zone sensor same reevaluated).session =
          if same then runtime.session else none := by
      intro runtime sensor same reevaluated rejoined
      cases reevaluated <;> rfl
    simp only [ZoneHistory.sessionIds, ZoneHistory.ownedBy, kept] at opened ⊢
    split at opened
    · exact opened
    · cases opened

theorem planZone_sessions {env : PlanEnv} {snapshot : ImmutableEntrySnapshot}
    {originalActive : String → Option SafetyRecord} {state next : PlanState}
    {zone : ImmutableZoneSnapshot} (keyed : state.Keyed)
    (planned : planZone env snapshot originalActive state zone = .ok next) :
    sessionsOf next.histories ⊆ sessionsOf state.histories := by
  obtain marked | ⟨base, selected, createdNew, -, selection, continuing⟩ :=
    planZone_cases keyed planned
  · rw [marked.histories]
    exact List.Subset.refl _
  · have continued := continueZone_cases continuing
    cases selection with
    | existing => exact continued.sessions keyed
    | fresh _ _ _ made opened =>
      obtain ⟨own, closed⟩ := newZoneHistory_frame opened
      refine List.Subset.trans
        (continued.sessions ((keyed.setHistory own).setRecord rfl)) ?_
      exact sessionsOf_set_subset fun ids held => by simp [ZoneHistory.sessionIds, closed] at held

theorem planReconciledStore_sessions {env : PlanEnv} {snapshot : ImmutableEntrySnapshot}
    {data : StoreData} {plan : PlanState}
    (planned : planReconciledStore env snapshot data.toStoreFields = .ok plan) :
    sessionsOf plan.histories ⊆ data.sessions := by
  refine @planReconciledStore_rule _ _ _ _
    (fun _ state => sessionsOf state.histories ⊆ data.sessions) planned ?_ ?_
  · intro retained _ histories _ ids member
    obtain ⟨k, history, found, opened⟩ := mem_sessionsOf_iff.mp member
    obtain ⟨original, held, same⟩ := histories.stored found
    refine mem_sessionsOf_iff.mpr ⟨k, original, held, ?_⟩
    rw [← opened, ZoneHistory.sessionIds, ZoneHistory.sessionIds, same.zoneRuntime]
  · intro earlier zone later state next _ _ keyed kept stepped
    exact List.Subset.trans (planZone_sessions keyed stepped) kept

/-! ## What a transaction writes -/

theorem eq_ok_of_map_some {result : Except PyError StoreData} {next : StoreData}
    (mapped : result.map some = .ok (some next)) : result = .ok next := by
  cases result with
  | error err => cases mapped
  | ok value => simpa [Except.map] using mapped

/-- The maps of the mutator, in the snapshot that `reconcile` saves. -/
def StoreFields.withMaps (data : StoreFields) (records : Dict String SafetyRecord)
    (histories : Dict String ZoneHistory) : StoreFields :=
  { data with
    storeRevision := data.storeRevision + 1
    safetyRecords := records
    zoneHistories := histories }

theorem reconcile_withMaps {data next : StoreData}
    {mutator : StoreData → Except PyError (Dict String SafetyRecord × Dict String ZoneHistory)}
    (reconciled : reconcile data mutator = .ok next) :
    next.toStoreFields = data.toStoreFields.withMaps next.safetyRecords next.zoneHistories := by
  have mutated := reconcile_eq_ok reconciled
  simp only [reconcile, mutated] at reconciled
  exact StoreFields.check_eq_ok_iff.mp reconciled

namespace EntryTransaction

/-- The record that the transaction writes on its own. -/
def recordWritten : EntryTransaction → Option String
  | .setRecordBlocker safetyRecordId _ _ | .acknowledgeActuatorFault safetyRecordId _ _
  | .acknowledgeRemovedActuator safetyRecordId _ _ _ => some safetyRecordId
  | _ => none

def writeRecord (record : SafetyRecord) : EntryTransaction → SafetyRecord
  | .setRecordBlocker _ reason active => record.withBlocker reason active
  | .acknowledgeActuatorFault _ _ _ =>
    { record with actuatorFault := none, acknowledgementRequired := false }
  | .acknowledgeRemovedActuator _ _ registryEntryId acknowledgedAtUtc =>
    { record with
      removedActuatorAck := some
        ⟨acknowledgedAtUtc, registryEntryId, record.actuatorIdentity.lastKnownEntityId⟩ }
  | _ => record

/-- What a transaction that saves a snapshot has made of the one before. -/
inductive Saves (data next : StoreData) : EntryTransaction → Prop where
  | planned {env : PlanEnv} {snapshot : ImmutableEntrySnapshot} {plan : PlanState} :
      planReconciledStore env snapshot data.toStoreFields = .ok plan →
      next.toStoreFields = data.toStoreFields.withMaps plan.records plan.histories →
      Saves data next (.plan env snapshot)
  | refreshed {registry : EntityRegistry} {assessments : String → Option ActuatorAssessment} :
      reconcile data (MoistureLoop.refreshTombstones registry assessments) = .ok next →
      (∀ k ∈ data.safetyRecords.keys, k ∈ next.safetyRecords.keys) →
      next.toStoreFields = data.toStoreFields.withMaps next.safetyRecords data.zoneHistories →
      Saves data next (.refreshTombstones registry assessments)
  /-- The session is that of an earlier snapshot. -/
  | restored {zoneHistoryId : String} {persisted : PersistedSession} {history : ZoneHistory} :
      next.toStoreFields = data.toStoreFields.withMaps data.safetyRecords
        (data.zoneHistories.set zoneHistoryId history) →
      history.sessionIds = some persisted.ids →
      Saves data next (.restoreTerminalReason zoneHistoryId persisted)
  | cleared {safetyRecordId k : String} {before history : ZoneHistory} :
      data.zoneHistories.get? k = some before →
      next.toStoreFields = data.toStoreFields.withMaps data.safetyRecords
        (data.zoneHistories.set k history) →
      history.zoneRuntime.session = before.zoneRuntime.session →
      Saves data next (.clearConfigurationFault safetyRecordId)
  /-- There was no configuration fault, and the snapshot is saved all the same. -/
  | resaved {safetyRecordId : String} :
      next.toStoreFields = data.toStoreFields.withMaps data.safetyRecords data.zoneHistories →
      Saves data next (.clearConfigurationFault safetyRecordId)
  | record {change : EntryTransaction} {k : String} {record : SafetyRecord} :
      change.recordWritten = some k → data.safetyRecords.get? k = some record →
      next.toStoreFields = data.toStoreFields.setRecord k (change.writeRecord record) →
      Saves data next change

/-- Every transaction that saves a snapshot is one of these. -/
theorem saves_of_result {data next : StoreData} {change : EntryTransaction}
    (changed : change.result data = .ok (some next)) : Saves data next change := by
  cases change with
  | plan env snapshot =>
    have saved := reconcile_withMaps (eq_ok_of_map_some changed)
    have planned := reconcile_eq_ok (eq_ok_of_map_some changed)
    unfold planMutator at planned
    cases outcome : planReconciledStore env snapshot data.toStoreFields with
    | error err => simp [outcome, Except.map] at planned
    | ok plan =>
      simp only [outcome, Except.map, Except.ok.injEq, Prod.mk.injEq] at planned
      exact .planned outcome (by rw [planned.1, planned.2]; exact saved)
  | refreshTombstones registry assessments =>
    have reconciled := eq_ok_of_map_some changed
    have saved := reconcile_withMaps reconciled
    have refreshed := reconcile_eq_ok reconciled
    unfold MoistureLoop.refreshTombstones at refreshed
    cases rewritten : data.safetyRecords.rewriteM
        (refreshRecord registry assessments data.zoneHistories) with
    | error err => simp [rewritten, Except.map] at refreshed
    | ok records =>
      simp only [rewritten, Except.map, Except.ok.injEq, Prod.mk.injEq] at refreshed
      refine .refreshed reconciled (fun k known => ?_) (by rw [refreshed.2]; exact saved)
      obtain ⟨record, held⟩ := Option.isSome_iff_exists.mp (Dict.isSome_get?_iff.mpr known)
      obtain ⟨after, -, stored⟩ := (Dict.get?_of_rewriteM rewritten k).2 record held
      rw [← refreshed.1]
      exact Dict.isSome_get?_iff.mp (by simp [stored])
  | restoreTerminalReason zoneHistoryId persisted =>
    have saved := reconcile_withMaps (eq_ok_of_map_some changed)
    have written := reconcile_eq_ok (eq_ok_of_map_some changed)
    simp only [MoistureLoop.restoreTerminalReason, Except.bind_eq_ok_iff, checkValue_eq_ok_iff]
      at written
    obtain ⟨current, -, runtime, ⟨-, rfl⟩, history, ⟨-, rfl⟩, made⟩ := written
    obtain ⟨records, histories⟩ := Prod.mk.inj (Except.ok.inj made)
    rw [← records, ← histories] at saved
    exact .restored saved rfl
  | clearConfigurationFault safetyRecordId =>
    have saved := reconcile_withMaps (eq_ok_of_map_some changed)
    have written := reconcile_eq_ok (eq_ok_of_map_some changed)
    simp only [MoistureLoop.clearConfigurationFault, Except.bind_eq_ok_iff, getKey_eq_ok_iff]
      at written
    obtain ⟨record, -, current, held, written⟩ := written
    split at written
    · obtain ⟨records, histories⟩ := Prod.mk.inj (Except.ok.inj written)
      rw [← records, ← histories] at saved
      exact .resaved saved
    · simp only [Except.bind_eq_ok_iff, checkValue_eq_ok_iff] at written
      obtain ⟨runtime, ⟨-, rfl⟩, history, ⟨-, rfl⟩, made⟩ := written
      obtain ⟨records, histories⟩ := Prod.mk.inj (Except.ok.inj made)
      rw [← records, ← histories] at saved
      rw [← data.consistent.historyKey _ _ held] at held
      exact .cleared held saved rfl
  -- These write the one record that they have checked.
  | setRecordBlocker safetyRecordId reason active =>
    cases held : data.safetyRecords.get? safetyRecordId with
    | none => simp [result, MoistureLoop.setRecordBlocker, held] at changed
    | some record =>
      simp only [result, MoistureLoop.setRecordBlocker, held] at changed
      split at changed
      · cases changed
      · exact .record rfl held (StoreFields.check_eq_ok_iff.mp (eq_ok_of_map_some changed))
  | acknowledgeActuatorFault safetyRecordId safetyLineageId expectedFault =>
    have acknowledged := eq_ok_of_map_some changed
    simp only [MoistureLoop.acknowledgeActuatorFault] at acknowledged
    split at acknowledged
    · cases acknowledged
    · rename_i record held
      split at acknowledged
      · cases acknowledged
      · exact .record rfl held (StoreFields.check_eq_ok_iff.mp acknowledged)
  | acknowledgeRemovedActuator safetyRecordId safetyLineageId registryEntryId acknowledgedAtUtc =>
    have acknowledged := eq_ok_of_map_some changed
    simp only [MoistureLoop.acknowledgeRemovedActuator] at acknowledged
    split at acknowledged
    · cases acknowledged
    · rename_i record held
      split at acknowledged
      · cases acknowledged
      · exact .record rfl held (StoreFields.check_eq_ok_iff.mp acknowledged)

end EntryTransaction

/-! ## What a transaction keeps -/

/-- The next snapshot is of the same runs, and its sessions are those of the one before or a
restored one. -/
structure OpensNoSession (restored : Option SessionIds) (data next : StoreData) : Prop where
  run : next.run = data.run
  sessions : ∀ ids ∈ next.sessions, ids ∈ data.sessions ∨ restored = some ids

theorem opensNoSession_of_withMaps {restored : Option SessionIds} {data next : StoreData}
    {records : Dict String SafetyRecord} {histories : Dict String ZoneHistory}
    (saved : next.toStoreFields = data.toStoreFields.withMaps records histories)
    (kept : ∀ ids ∈ sessionsOf histories, ids ∈ data.sessions ∨ restored = some ids) :
    OpensNoSession restored data next := by
  refine ⟨by rw [saved]; rfl, fun ids member => kept ids ?_⟩
  rw [saved] at member
  exact member

theorem EntryTransaction.opensNoSession {data next : StoreData} {change : EntryTransaction}
    (changed : change.result data = .ok (some next)) :
    OpensNoSession change.restored data next := by
  cases saves_of_result changed with
  | planned outcome saved =>
    exact opensNoSession_of_withMaps saved fun ids member =>
      .inl (planReconciledStore_sessions outcome member)
  | refreshed _ _ saved | resaved saved =>
    exact opensNoSession_of_withMaps saved fun ids member => .inl member
  | restored saved session =>
    refine opensNoSession_of_withMaps saved fun ids member => ?_
    obtain own | other := mem_sessionsOf_set member
    · exact .inr (session.symm.trans own)
    · exact .inl other
  | cleared held saved session =>
    refine opensNoSession_of_withMaps saved fun ids member => .inl ?_
    refine sessionsOf_set_subset (fun ids own => ⟨_, held, ?_⟩) member
    rwa [ZoneHistory.sessionIds, ← session]
  | record _ _ saved =>
    exact ⟨by rw [saved]; rfl, fun ids member => .inl (by rw [saved] at member; exact member)⟩

end MoistureLoop
