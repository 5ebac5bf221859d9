import MoistureLoop.Runtime.Settled

/-! # Planning twice

A plan without conflicts is a fixed point of the planner: every record it leaves is one that
the same evidence leaves alone (`PlanSettled`, an invariant of the second loop), so that both
loops go over the new Store without a change (`planReconciledStore_idempotent`). -/

namespace MoistureLoop

open Checked (Holds)

structure ZoneSettled (env : PlanEnv) (snapshot : ImmutableEntrySnapshot) (state : PlanState)
    (zone : ImmutableZoneSnapshot) (k : String) (record : SafetyRecord) (history : ZoneHistory) :
    Prop where
  found : state.records.get? k = some record
  held : state.histories.get? record.zoneHistoryId = some history
  settled : SettledFor env snapshot zone history.zoneRuntime.session record
  sensor : history.activeSubentryId = some zone.subentryId →
    history.zoneRuntime.sensorIdentity = zone.currentSensorIdentity
  unreported : zone.identityConflictDetail = none
  alone : ∀ k' other, state.records.get? k' = some other →
    zone.actuatorIdentity.registryEntryId.isSome = true →
    other.actuatorIdentity.registryEntryId = zone.actuatorIdentity.registryEntryId → k' = k
  /-- No other Registry identity uses the zone's entity. -/
  unshared : ∀ k' other, state.records.get? k' = some other →
    other.actuatorIdentity.lastKnownEntityId = some zone.currentActuator →
    other.actuatorIdentity.registryEntryId.isSome = true →
    other.actuatorIdentity.registryEntryId = zone.actuatorIdentity.registryEntryId

/-- Every record has a history and, without a zone, is fixed by the evidence about it; the
zones that are planned are settled. -/
structure PlanSettled (env : PlanEnv) (snapshot : ImmutableEntrySnapshot)
    (earlier : List ImmutableZoneSnapshot) (state : PlanState) : Prop where
  records : ∀ k record, state.records.get? k = some record →
    ∃ history, state.histories.get? record.zoneHistoryId = some history ∧
      (record.activeSubentryId = none →
        record.RetainedFixed env.registry history.zoneRuntime.session (env.recordAssessment k))
  configured : ∀ k record subentryId, state.records.get? k = some record →
    record.activeSubentryId = some subentryId → ∃ zone ∈ snapshot.zones,
      zone.subentryId = subentryId
  zones : ∀ zone ∈ earlier, ∃ k record history,
    ZoneSettled env snapshot state zone k record history

theorem SettledFor.active {env : PlanEnv} {snapshot : ImmutableEntrySnapshot}
    {zone : ImmutableZoneSnapshot} {session : Option PersistedSession} {record : SafetyRecord}
    (settled : SettledFor env snapshot zone session record) :
    record.activeSubentryId = some zone.subentryId ∧ record.runtimeLifecycle = .active ∧
      record.actuatorIdentity = durableActuatorIdentity zone :=
  ⟨(congrArg SafetyRecord.activeSubentryId settled.adopted).symm,
    (congrArg SafetyRecord.runtimeLifecycle settled.adopted).symm,
    (congrArg SafetyRecord.actuatorIdentity settled.adopted).symm⟩

theorem planSettled_of_retained {env : PlanEnv} {snapshot : ImmutableEntrySnapshot}
    {data : StoreData} {retained : PlanState}
    (owners : OwnersRetained env snapshot data.toStoreFields retained)
    (histories : HistoriesRetained snapshot data.toStoreFields retained)
    (retaining : data.safetyRecords.entries.foldlM (retainOwner env snapshot)
      (.unplanned snapshot data.toStoreFields) = .ok retained) :
    PlanSettled env snapshot [] retained := by
  have settled := ownersSettled retaining
  refine ⟨fun k record found => ?_,
    fun k record subentryId found => (settled k record found).configured subentryId,
    fun zone member => nomatch member⟩
  have refers := (historiesContinue_of_retained owners histories).refers k record found
  obtain ⟨after, present⟩ := Option.isSome_iff_exists.mp refers
  refine ⟨after, present, fun unowned => ?_⟩
  obtain ⟨history, held, fixed⟩ := (settled k record found).fixed unowned
  obtain ⟨original, held', same⟩ := histories.stored present
  obtain rfl := Option.some.inj (held.symm.trans held')
  rw [same.zoneRuntime]
  exact fixed

section Turn

variable {env : PlanEnv} {snapshot : ImmutableEntrySnapshot} {data : StoreData}
  {earlier later : List ImmutableZoneSnapshot} {zone : ImmutableZoneSnapshot}
  {state base next : PlanState} {selected record : SafetyRecord} {createdNew : Bool}

/-- The record that a zone selects is the only one of the zone's Registry identity. -/
theorem ZonePlanned.alone
    (planned : ZonePlanned env snapshot data.toStoreFields earlier later zone state base next
      selected record createdNew) {k : String} {other : SafetyRecord}
    (found : state.records.get? k = some other)
    (registered : zone.actuatorIdentity.registryEntryId.isSome = true)
    (same : other.actuatorIdentity.registryEntryId = zone.actuatorIdentity.registryEntryId) :
    k = selected.safetyRecordId := by
  have member : zone ∈ snapshot.zones := by simp [planned.listed]
  have exact : ∀ {k' : String} {record' : SafetyRecord}, state.records.get? k' = some record' →
      record'.actuatorIdentity.registryEntryId = zone.actuatorIdentity.registryEntryId →
      record' ∈ state.exactRecords zone := fun found' same' =>
    List.mem_filter.mpr ⟨Dict.mem_values_iff_get?.mpr ⟨_, found'⟩, by simp [registered, same']⟩
  have here := exact found same
  rw [← planned.keyed.records k other found]
  refine congrArg SafetyRecord.safetyRecordId ?_
  cases planned.selection with
  | existing _ reason =>
    cases reason with
    | @current prior owned kept found' =>
      obtain ⟨active, k', held⟩ := StoreFields.originalActive_eq_some owned
      have key := data.consistent.recordKey k' prior held
      obtain ⟨after, present, own, -⟩ := planned.calm.kept k' prior zone.subentryId zone held
        active (ImmutableEntrySnapshot.bySubentryId_of_mem member) kept
      rw [← key, found'] at present
      obtain rfl := Option.some.inj present
      have there := exact found' own.registered
      have few := planned.unambiguous.2.1
      obtain ⟨only, list⟩ := List.length_eq_one_iff.mp
        (le_antisymm few (List.length_pos_of_mem here))
      rw [list, List.mem_singleton] at here there
      exact here.trans there.symm
    | exact _ only =>
      rw [only, List.mem_singleton] at here
      exact here
    | mapped _ none' _ =>
      rw [none'] at here
      cases here
  | fresh _ none' _ _ _ =>
    rw [none'] at here
    cases here

/-- Seen from the other records, a turn writes the selected record. -/
theorem ZonePlanned.record_cases
    (planned : ZonePlanned env snapshot data.toStoreFields earlier later zone state base next
      selected record createdNew) {k : String} {other : SafetyRecord}
    (found : next.records.get? k = some other) :
    k = selected.safetyRecordId ∧ other = record ∨
      k ≠ selected.safetyRecordId ∧ state.records.get? k = some other := by
  by_cases here : k = selected.safetyRecordId
  · rw [planned.outcome.records, here, Dict.get?_set_self] at found
    exact .inl ⟨here, (Option.some.inj found).symm⟩
  · rw [planned.outcome.records, Dict.get?_set_of_ne _ _ here, planned.apart.records k here] at found
    exact .inr ⟨here, found⟩

/-- A record that was not selected keeps its history's session. -/
theorem ZonePlanned.refersTo
    (planned : ZonePlanned env snapshot data.toStoreFields earlier later zone state base next
      selected record createdNew) {k : String} {other : SafetyRecord} {history : ZoneHistory}
    (found : state.records.get? k = some other) (differs : k ≠ selected.safetyRecordId)
    (held : state.histories.get? other.zoneHistoryId = some history) :
    next.records.get? k = some other ∧
      ∃ after, next.histories.get? other.zoneHistoryId = some after ∧
        after.zoneRuntime.session = history.zoneRuntime.session ∧
        (after = history ∨ after.activeSubentryId = some zone.subentryId) := by
  have found' := (planned.apart.records k differs).trans found
  refine ⟨?_, planned.outcome.refersTo (planned.selection.base planned.keyed).1 found'
    differs (planned.apart.histories _ history held)⟩
  rw [planned.outcome.records, Dict.get?_set_of_ne _ _ differs, found']

theorem ZonePlanned.zoneSettled
    (planned : ZonePlanned env snapshot data.toStoreFields earlier later zone state base next
      selected record createdNew) :
    ∃ history, ZoneSettled env snapshot next zone selected.safetyRecordId record history := by
  obtain ⟨history, held, sensor, settled⟩ := planned.takes.settled
  obtain ⟨-, -, identity⟩ := settled.active
  refine ⟨history, ?_, held, settled, fun _ => sensor, planned.unambiguous.1,
    fun k other found registered same => ?_, fun k other found entity registered => ?_⟩
  · rw [planned.outcome.records, Dict.get?_set_self]
  · obtain ⟨here, -⟩ | ⟨-, found⟩ := planned.record_cases found
    · exact here
    · exact planned.alone found registered same
  · obtain ⟨-, rfl⟩ | ⟨-, found⟩ := planned.record_cases found
    · rw [identity]
      rfl
    · by_contra other'
      have conflicting : other ∈ state.textualConflicts zone :=
        List.mem_filter.mpr ⟨Dict.mem_values_iff_get?.mpr ⟨k, found⟩,
          by simp [entity, registered, other']⟩
      rw [planned.unambiguous.2.2] at conflicting
      cases conflicting

/-- A zone that was settled stays settled when another one takes its record. -/
theorem ZonePlanned.staysSettled (resolved : snapshot.ActuatorsResolved)
    (planned : ZonePlanned env snapshot data.toStoreFields earlier later zone state base next
      selected record createdNew) {other : ImmutableZoneSnapshot} {k : String}
    {record' : SafetyRecord} {history : ZoneHistory} (member : other ∈ earlier)
    (settled : ZoneSettled env snapshot state other k record' history) :
    ∃ after, ZoneSettled env snapshot next other k record' after := by
  have inside : zone ∈ snapshot.zones := by simp [planned.listed]
  have inside' : other ∈ snapshot.zones := by simp [planned.listed, member]
  have unplanned := not_mem_earlier planned.calm.distinct planned.listed
  have apart : other ≠ zone := fun same => unplanned (same ▸ member)
  obtain ⟨active, -, -⟩ := settled.settled.active
  have differs : k ≠ selected.safetyRecordId := by
    rintro rfl
    exact planned.apart.unowned other member record' settled.found active
  obtain ⟨found, after, held, session, written⟩ :=
    planned.refersTo settled.found differs settled.held
  obtain ⟨_, -, -, taken⟩ := planned.takes.settled
  obtain ⟨-, -, identity⟩ := taken.active
  refine ⟨after, found, held, session ▸ settled.settled, fun current => ?_, settled.unreported,
    fun k' value found' registered same => ?_, fun k' value found' entity registered => ?_⟩
  · obtain rfl | foreign := written
    · exact settled.sensor current
    · have same := Option.some.inj (current.symm.trans foreign)
      exact absurd (ImmutableEntrySnapshot.zone_unique inside inside' same) apart
  · obtain ⟨-, rfl⟩ | ⟨-, found'⟩ := planned.record_cases found'
    · -- Two zones of one Registry identity would be one zone.
      have own : value.HasActuatorOf zone := SafetyRecord.hasActuatorOf_of_durable identity
      have own' : value.HasActuatorOf other :=
        ⟨same, fun none' => by simp [none'] at registered⟩
      exact absurd (zone_unique_of_hasActuatorOf taken.valid planned.calm.distinct inside'
        inside own' own) apart
    · exact settled.alone k' value found' registered same
  · obtain ⟨-, rfl⟩ | ⟨-, found'⟩ := planned.record_cases found'
    · rw [identity] at entity ⊢
      exact resolved zone inside other inside' (Option.some.inj entity)
    · exact settled.unshared k' value found' entity registered

/-- One turn of the second loop keeps the plan settled. -/
theorem PlanSettled.taken (resolved : snapshot.ActuatorsResolved)
    (planned : ZonePlanned env snapshot data.toStoreFields earlier later zone state base next
      selected record createdNew) (settled : PlanSettled env snapshot earlier state) :
    PlanSettled env snapshot (earlier ++ [zone]) next := by
  obtain ⟨own, zoneSettled⟩ := planned.zoneSettled
  obtain ⟨active, -, -⟩ := zoneSettled.settled.active
  refine ⟨fun k other found => ?_, fun k other subentryId found owned => ?_,
    fun other member => ?_⟩
  · obtain ⟨-, rfl⟩ | ⟨differs, found'⟩ := planned.record_cases found
    · refine ⟨own, zoneSettled.held, fun unowned => ?_⟩
      rw [active] at unowned
      cases unowned
    · obtain ⟨history, held, fixed⟩ := settled.records k other found'
      obtain ⟨-, after, held', session, -⟩ := planned.refersTo found' differs held
      exact ⟨after, held', fun unowned => session ▸ fixed unowned⟩
  · obtain ⟨-, rfl⟩ | ⟨-, found'⟩ := planned.record_cases found
    · exact ⟨zone, by simp [planned.listed], Option.some.inj (active.symm.trans owned)⟩
    · exact settled.configured k other subentryId found' owned
  · obtain member | rfl : other ∈ earlier ∨ other = zone := by simpa using member
    · obtain ⟨k, record', history, settled'⟩ := settled.zones other member
      obtain ⟨after, stays⟩ := planned.staysSettled resolved member settled'
      exact ⟨k, record', after, stays⟩
    · exact ⟨_, record, own, zoneSettled⟩

end Turn

/-! ## The second plan -/

section Again

variable {env env' : PlanEnv} {snapshot : ImmutableEntrySnapshot} {data : StoreData}
  {plan : PlanState} {zone : ImmutableZoneSnapshot} {k : String} {record : SafetyRecord}
  {history : ZoneHistory}

/-- The second plan sees the actuators as the first one did. -/
structure SameAssessments (env env' : PlanEnv) : Prop where
  registry : env'.registry = env.registry
  zoneAssessment : env'.zoneAssessment = env.zoneAssessment
  recordAssessment : env'.recordAssessment = env.recordAssessment

theorem PlanSettled.zone_of_active (settled : PlanSettled env snapshot snapshot.zones plan)
    (records : data.safetyRecords = plan.records) (found : plan.records.get? k = some record)
    {subentryId : String} (active : record.activeSubentryId = some subentryId) :
    ∃ zone ∈ snapshot.zones, zone.subentryId = subentryId ∧
      ∃ history, ZoneSettled env snapshot plan zone k record history := by
  obtain ⟨zone, member, rfl⟩ := settled.configured k record subentryId found active
  obtain ⟨k', record', history, zoneSettled⟩ := settled.zones zone member
  have key : k = k' := data.consistent.recordSubentry k k' record record' zone.subentryId
    (records ▸ found) (records ▸ zoneSettled.found) active zoneSettled.settled.active.1
  subst key
  obtain rfl := Option.some.inj (found.symm.trans zoneSettled.found)
  exact ⟨zone, member, rfl, history, zoneSettled⟩

/-- The first loop leaves a settled plan as it is. -/
theorem PlanSettled.retainOwner_eq (same : SameAssessments env env')
    (settled : PlanSettled env snapshot snapshot.zones plan)
    (records : data.safetyRecords = plan.records) (found : plan.records.get? k = some record) :
    retainOwner env' snapshot plan (k, record) = .ok plan := by
  unfold retainOwner
  simp only
  cases owned : record.activeSubentryId with
  | none =>
    obtain ⟨history, held, fixed⟩ := settled.records k record found
    have reconciled := (fixed owned).reconcile
    rw [← same.registry, ← same.recordAssessment] at reconciled
    simp only [PlanState.reconcileRetained, getKey, held, reconciled, bind, Except.bind,
      Dict.set_eq_self found]
  | some subentryId =>
    obtain ⟨zone, member, rfl, history, zoneSettled⟩ :=
      settled.zone_of_active records found owned
    obtain ⟨active, -, identity⟩ := zoneSettled.settled.active
    simp only [ImmutableEntrySnapshot.bySubentryId_of_mem member,
      sameActuator_of_durable active identity, if_true]

/-- A settled zone has nothing ambiguous. -/
theorem ZoneSettled.unambiguous (settled : ZoneSettled env snapshot plan zone k record history) :
    (plan.exactRecords zone).length ≤ 1 ∧ plan.textualConflicts zone = [] := by
  refine ⟨@Dict.length_filter_values_le_one _ _ _ plan.records _ k fun k' other found exact => ?_,
    List.filter_eq_nil_iff.mpr fun other member conflicting => ?_⟩
  · simp only [Bool.and_eq_true, decide_eq_true_eq] at exact
    exact settled.alone k' other found exact.1 exact.2
  · obtain ⟨k', found⟩ := Dict.mem_values_iff_get?.mp member
    simp only [Bool.and_eq_true, decide_eq_true_eq] at conflicting
    exact conflicting.2 (settled.unshared k' other found conflicting.1.1 conflicting.1.2)

/-- The operational part of a settled history is kept. -/
theorem ZoneSettled.runtime_eq (settled : ZoneSettled env snapshot plan zone k record history)
    (owned : history.activeSubentryId = some zone.subentryId) :
    plannedZoneRuntime env' history.zoneRuntime record zone zone.currentSensorIdentity true false =
      history.zoneRuntime := by
  unfold plannedZoneRuntime
  simp only [if_true, Bool.false_eq_true, if_false]
  rw [← settled.sensor owned]

theorem ZoneSettled.ownedBy_eq (valid : Holds history.guards)
    (owned : history.activeSubentryId = some zone.subentryId) :
    history.ownedBy zone.subentryId history.zoneRuntime = history := by
  unfold ZoneHistory.ownedBy
  rw [owned, previousSubentries_of_current (ZoneHistory.current_not_previous valid owned), ← owned]

/-- A settled zone has no reason to derive its state anew. -/
theorem ZoneSettled.reevaluatesState_eq
    (settled : ZoneSettled env snapshot plan zone k record history) (exact : List SafetyRecord)
    (createdNew : Bool) :
    continuingSameActuator (some record) exact record zone = true ∧
      reevaluatesState (some record) exact record zone createdNew = false := by
  obtain ⟨active, -, identity⟩ := settled.settled.active
  have applied : record.appliedConfig = some (zone.appliedShadow
      snapshot.entrySnapshotFingerprint snapshot.observedGeneration) :=
    (congrArg SafetyRecord.appliedConfig settled.settled.adopted).symm
  have same : continuingSameActuator (some record) exact record zone = true := by
    simp [continuingSameActuator, sameActuator_of_durable active identity]
  refine ⟨same, ?_⟩
  simp [reevaluatesState, same, configurationChanged, applied, active,
    ImmutableZoneSnapshot.appliedShadow]

theorem ZoneSettled.adoptRecord_eq (same : SameAssessments env env')
    (settled : ZoneSettled env snapshot plan zone k record history)
    (key : record.safetyRecordId = k) (valid : Holds history.guards)
    (owned : history.activeSubentryId = some zone.subentryId) (exact : List SafetyRecord) :
    adoptRecord env' snapshot plan (some record) exact record zone false = .ok plan := by
  obtain ⟨continuing, unchanged⟩ := settled.reevaluatesState_eq exact false
  obtain ⟨-, -, identity⟩ := settled.settled.active
  have applied : record.appliedConfig = some (zone.appliedShadow
      snapshot.entrySnapshotFingerprint snapshot.observedGeneration) :=
    (congrArg SafetyRecord.appliedConfig settled.settled.adopted).symm
  have recordGuards := settled.settled.valid
  simp only [SafetyRecord.guards, Checked.holds_append, identity, applied, Option.toList_some,
    List.flatMap_cons, List.flatMap_nil, List.append_nil] at recordGuards
  have historyGuards := valid
  simp only [ZoneHistory.guards, Checked.holds_append] at historyGuards
  have runtimeGuards := historyGuards.1.1
  simp only [ZoneRuntime.guards, Checked.holds_append, settled.sensor owned] at runtimeGuards
  have evident := settled.settled.evident
  rw [← same.zoneAssessment] at evident
  simp only [adoptRecord, Except.bind_eq_ok_iff, getKey_eq_ok_iff]
  refine ⟨history, settled.held, ?_⟩
  rw [if_neg (by simp [continuing])]
  simp only [Except.bind_eq_ok_iff, checkValue_eq_ok_iff, SafetyRecord.evolve_eq_ok_iff,
    reconcileActiveRecord, continuing, unchanged]
  refine ⟨_, ⟨runtimeGuards.1.2, rfl⟩, _, ⟨?_, rfl⟩, history, ⟨?_, ?_⟩, _,
    ⟨recordGuards.1.1.1.1.1, rfl⟩, _, ⟨recordGuards.1.1.1.1.2, rfl⟩, record, ⟨?_, ?_⟩, record,
    ⟨?_, evident.symm⟩, ?_⟩
  · rw [settled.runtime_eq owned]
    exact historyGuards.1.1
  · rw [settled.runtime_eq owned, ZoneSettled.ownedBy_eq valid owned]
    exact valid
  · rw [settled.runtime_eq owned, ZoneSettled.ownedBy_eq valid owned]
  · rw [show continuingHistoryId (some record) record = record.zoneHistoryId from rfl,
      settled.settled.adopted]
    exact settled.settled.valid
  · exact settled.settled.adopted.symm
  · rw [evident]
    exact settled.settled.valid
  · rw [show continuingHistoryId (some record) record = record.zoneHistoryId from rfl,
      Dict.set_eq_self settled.held, key, Dict.set_eq_self settled.found]

/-- The second loop leaves a settled plan as it is. -/
theorem ZoneSettled.planZone_eq (same : SameAssessments env env')
    (settled : ZoneSettled env snapshot plan zone k record history)
    (records : data.safetyRecords = plan.records) (histories : data.zoneHistories = plan.histories) :
    planZone env' snapshot data.originalActive plan zone = .ok plan := by
  have found : data.safetyRecords.get? k = some record := records ▸ settled.found
  have held : data.zoneHistories.get? record.zoneHistoryId = some history :=
    histories ▸ settled.held
  have key := data.consistent.recordKey k record found
  obtain ⟨active, lifecycle, identity⟩ := settled.settled.active
  obtain ⟨history', held', owned⟩ := data.consistent.recordHistory k record found
  obtain rfl := Option.some.inj (held.symm.trans held')
  obtain ⟨few, unshared⟩ := settled.unambiguous
  have selecting : selectRecord env' plan (some record) zone = .ok (.existing record) := by
    have kept := sameActuator_of_durable active identity
    simp [selectRecord, not_lt.mpr few, unshared, Option.filter, kept, getKey, key,
      settled.found, Except.map]
  unfold planZone
  simp only [settled.unreported, StoreData.originalActive_of_active found active, selecting, bind,
    Except.bind, continueZone, joinHistories, continuingHistoryId, Option.map_some,
    Option.getD_some, if_true]
  exact settled.adoptRecord_eq same key (data.consistent.histories _ history held)
    ((owned lifecycle).trans active) _

end Again

/-- Planning again over the Store that a plan without conflicts was written to, with the same
assessments, plans the same records and histories and finds no conflict. -/
theorem planReconciledStore_idempotent {env env' : PlanEnv} {snapshot : ImmutableEntrySnapshot}
    {data data' : StoreData} {plan : PlanState} (fresh : FreshIds env snapshot data.toStoreFields)
    (resolved : snapshot.ActuatorsResolved)
    (planned : planReconciledStore env snapshot data.toStoreFields = .ok plan)
    (calm : plan.conflicts = []) (reconciled : reconcile data (planMutator env snapshot) = .ok data')
    (same : SameAssessments env env') :
    data'.safetyRecords = plan.records ∧ data'.zoneHistories = plan.histories ∧
      planReconciledStore env' snapshot data'.toStoreFields = .ok plan := by
  have written := reconcile_eq_ok reconciled
  simp only [planMutator, planned, Except.map, Except.ok.injEq, Prod.mk.injEq] at written
  obtain ⟨records, histories⟩ := written
  obtain ⟨calm', settled⟩ := planReconciledStore_calm fresh planned calm
    (fun retained owners retainedHistories reached => by
      obtain ⟨first, retaining, folded⟩ := reached
      obtain rfl := Except.ok.inj folded
      exact planSettled_of_retained owners retainedHistories retaining)
    (fun turn settled => PlanSettled.taken resolved turn settled)
  refine ⟨records.symm, histories.symm, ?_⟩
  have start : PlanState.unplanned snapshot data'.toStoreFields = plan := by
    unfold PlanState.unplanned
    rw [← records, ← histories, calm'.undoubled, ← calm]
  rw [planReconciledStore, start, ← records,
    Checked.foldlM_fixed fun entry member => settled.retainOwner_eq same records.symm
      (Dict.get?_eq_some_iff.mpr member)]
  refine Checked.foldlM_fixed fun zone member => ?_
  obtain ⟨k, record, history, zoneSettled⟩ := settled.zones zone member
  exact zoneSettled.planZone_eq same records.symm histories.symm

/-- The store once the bed waters with `switch.b`. -/
def replacedStore : StoreData :=
  match reconcile flowingStore (planMutator sampleEnv (sampleSnapshot "uuid-b" "switch.b")) with
  | .ok data => data
  | .error _ => flowingStore

theorem planReconciledStore_idempotent_replaced :
    replacedStore.safetyRecords = replacedPlan.records ∧
      replacedStore.zoneHistories = replacedPlan.histories ∧
      planReconciledStore { sampleEnv with stateExists := fun _ => false }
        (sampleSnapshot "uuid-b" "switch.b") replacedStore.toStoreFields = .ok replacedPlan :=
  planReconciledStore_idempotent (sampleFresh "uuid-b" "switch.b")
    (fun zone member other member' _ => by
      rw [List.mem_singleton.mp member, List.mem_singleton.mp member'])
    replaced_planned (by decide +kernel)
    (show reconcile flowingStore (planMutator sampleEnv (sampleSnapshot "uuid-b" "switch.b")) =
      .ok replacedStore by decide +kernel)
    ⟨rfl, rfl, rfl⟩

end MoistureLoop
