import MoistureLoop.Runtime.ZoneContinuity
import MoistureLoop.Runtime.Resolution

/-! # Records that a plan leaves alone

Every calculation of a plan about one record is a projection: evidence, a rename, the mark of
a missing actuator and the lifecycle of a retained record, and the adoption by a zone.
`RetainedFixed` and `SettledFor` say that a record is a fixed point of them; both loops of a
plan leave records which are (`retainedFixed_of_reconciled`, `ZoneTakes.settled`). -/

namespace MoistureLoop

open Checked (Holds)

/-! ## Evidence -/

theorem blockersWith_again (blockers : List BlockerReason) (reason : BlockerReason) :
    blockersWith (blockersWith blockers reason) reason = blockersWith blockers reason := by
  apply orderBlockers_congr
  intro other
  have once : other ∈ blockersWith blockers reason ↔ other ∈ reason :: blockers :=
    mem_orderBlockers
  rw [List.mem_cons, once, List.mem_cons, ← or_assoc, or_self]

theorem blockersWithout_again (blockers reasons : List BlockerReason) :
    blockersWithout (blockersWithout blockers reasons) reasons =
      blockersWithout blockers reasons := by
  simp [blockersWithout]

namespace SafetyRecord

variable {record other : SafetyRecord} {registry : EntityRegistry}
  {session : Option PersistedSession} {assessment : Option ActuatorAssessment}
  {operatorOffProof : Bool}

theorem provenOff_again :
    (record.provenOff session).provenOff session = record.provenOff session := by
  simp only [provenOff, blockersWithout_again]
  split <;> rfl

theorem notProvenOff_again : record.notProvenOff.notProvenOff = record.notProvenOff := by
  simp only [notProvenOff, blockersWith_again]

/-- The same evidence again adds nothing. -/
theorem withEvidence_again :
    (record.withEvidence session assessment operatorOffProof).withEvidence session assessment
      operatorOffProof = record.withEvidence session assessment operatorOffProof := by
  cases assessment with
  | none =>
    cases operatorOffProof with
    | true => exact provenOff_again
    | false => exact notProvenOff_again
  | some assessment =>
    simp only [withEvidence]
    split
    · exact provenOff_again
    · split
      · simp only [blockersWith_again]
      · exact notProvenOff_again

theorem withEvidence_congr (blockers : other.blockerReasons = record.blockerReasons)
    (owner : other.possibleFlowOwner = record.possibleFlowOwner) :
    (other.withEvidence session assessment operatorOffProof).blockerReasons =
        (record.withEvidence session assessment operatorOffProof).blockerReasons ∧
      (other.withEvidence session assessment operatorOffProof).possibleFlowOwner =
        (record.withEvidence session assessment operatorOffProof).possibleFlowOwner := by
  unfold withEvidence provenOff notProvenOff
  cases assessment with
  | none => cases operatorOffProof <;> simp [blockers, owner]
  | some assessment =>
    simp only
    split
    · simp [blockers, owner]
    · split <;> simp [blockers, owner]

/-- Whether evidence changes a record is seen from its blockers and its flow owner. -/
theorem withEvidence_eq_self_of_same
    (fixed : record.withEvidence session assessment operatorOffProof = record)
    (blockers : other.blockerReasons = record.blockerReasons)
    (owner : other.possibleFlowOwner = record.possibleFlowOwner) :
    other.withEvidence session assessment operatorOffProof = other := by
  obtain ⟨sameBlockers, sameOwner⟩ := @withEvidence_congr record other session assessment
    operatorOffProof blockers owner
  obtain ⟨blockers', owner', frame⟩ := @withEvidence_frame other session assessment operatorOffProof
  rw [fixed, ← blockers] at sameBlockers
  rw [fixed, ← owner] at sameOwner
  rw [frame] at sameBlockers sameOwner ⊢
  obtain rfl : blockers' = other.blockerReasons := sameBlockers
  obtain rfl : owner' = other.possibleFlowOwner := sameOwner
  rfl

/-! ## Retained records -/

theorem renamedIdentity_domain :
    (record.renamedIdentity registry).domain = record.actuatorIdentity.domain := by
  unfold renamedIdentity
  simp only
  split
  · split <;> rfl
  · rfl

/-- A rename that was followed is not followed again. -/
theorem renamedIdentity_again
    (registered : other.actuatorIdentity.registryEntryId =
      record.actuatorIdentity.registryEntryId)
    (entity : other.actuatorIdentity.lastKnownEntityId =
      (record.renamedIdentity registry).lastKnownEntityId)
    (domain : other.actuatorIdentity.domain = record.actuatorIdentity.domain) :
    other.renamedIdentity registry = other.actuatorIdentity := by
  unfold renamedIdentity at entity ⊢
  simp only [registered, domain] at entity ⊢
  split
  · rename_i found known
    rw [found, known] at entity
    simp only at entity
    split at entity
    · rename_i unmoved
      rw [entity, if_pos unmoved]
    · rw [if_pos (.inl entity.symm)]
  · rfl

/-- A retained record that another reconciliation with the same evidence leaves as it is. -/
structure RetainedFixed (registry : EntityRegistry) (session : Option PersistedSession)
    (assessment : Option ActuatorAssessment) (record : SafetyRecord) : Prop where
  identity : record.renamedIdentity registry = record.actuatorIdentity
  evident : record.withEvidence session assessment (record.operatorOffProof assessment) = record
  looked : record.lookedFor assessment (record.operatorOffProof assessment) = record
  lifecycle : record.runtimeLifecycle =
    if record.safeToRetire session assessment (record.operatorOffProof assessment) then .retired
    else .deletePending
  valid : Holds record.guards

end SafetyRecord

open SafetyRecord

variable {record : SafetyRecord} {registry : EntityRegistry} {session : Option PersistedSession}
  {assessment : Option ActuatorAssessment} {operatorOffProof : Bool}

theorem recordLookedFor_of_fixed (valid : Holds record.guards)
    (looked : record.lookedFor assessment operatorOffProof = record) :
    recordLookedFor record assessment operatorOffProof = .ok record := by
  cases assessment with
  | some assessment => rfl
  | none =>
    have status : { record.actuatorIdentity with identityStatus := .missing } =
        record.actuatorIdentity := congrArg SafetyRecord.actuatorIdentity looked
    have incident : (if operatorOffProof then none else some record.unresolvedIncident) =
        record.identityIncident := congrArg SafetyRecord.identityIncident looked
    have guards := valid
    simp only [SafetyRecord.guards, Checked.holds_append] at guards
    simp only [recordLookedFor, Except.bind_eq_ok_iff, checkValue_eq_ok_iff, status]
    refine ⟨record.actuatorIdentity, ⟨guards.1.1.1.1.2, rfl⟩, ?_⟩
    cases operatorOffProof with
    | true =>
      have same : { record with identityIncident := none } = record := by
        rw [show none = record.identityIncident from incident]
      simp only [if_true]
      rw [same]
      exact evolve_eq_ok_iff.mpr ⟨valid, rfl⟩
    | false =>
      have held : some record.unresolvedIncident = record.identityIncident := incident
      have same : { record with identityIncident := some record.unresolvedIncident } = record := by
        rw [held]
      have named : Holds record.unresolvedIncident.guards := by
        refine Checked.holds_flatMap.mp guards.1.1.1.2 _ ?_
        simp [← held]
      simp only [Bool.false_eq_true, if_false, Except.bind_eq_ok_iff, checkValue_eq_ok_iff]
      refine ⟨record.unresolvedIncident, ⟨named, rfl⟩, ?_⟩
      rw [same]
      exact evolve_eq_ok_iff.mpr ⟨valid, rfl⟩

/-- Every step of the reconciliation leaves a fixed record, and every check passes. -/
theorem SafetyRecord.RetainedFixed.reconcile {history : ZoneHistory}
    (fixed : record.RetainedFixed registry history.zoneRuntime.session assessment) :
    reconcileRetainedRecord registry record history assessment = .ok record := by
  have guards := fixed.valid
  simp only [SafetyRecord.guards, Checked.holds_append] at guards
  have renamed : { record with actuatorIdentity := record.renamedIdentity registry } = record := by
    rw [fixed.identity]
  have lifecycle : { record with
      runtimeLifecycle :=
        if record.safeToRetire history.zoneRuntime.session assessment
          (record.operatorOffProof assessment) then .retired else .deletePending } = record := by
    rw [← fixed.lifecycle]
  simp only [reconcileRetainedRecord, retainedIdentityAfterRename, reconcileActiveRecord,
    Except.bind_eq_ok_iff, checkValue_eq_ok_iff, evolve_eq_ok_iff]
  refine ⟨record, ⟨_, ⟨?_, rfl⟩, ?_, renamed.symm⟩, record, ⟨?_, fixed.evident.symm⟩, record,
    recordLookedFor_of_fixed fixed.valid fixed.looked, ?_, lifecycle.symm⟩
  · rw [fixed.identity]
    exact guards.1.1.1.1.2
  · rw [renamed]
    exact fixed.valid
  · rw [fixed.evident]
    exact fixed.valid
  · rw [lifecycle]
    exact fixed.valid

theorem retainedFixed_of_reconciled {base after : SafetyRecord} {history : ZoneHistory}
    (reconciled : reconcileRetainedRecord registry base history assessment = .ok after) :
    after.RetainedFixed registry history.zoneRuntime.session assessment := by
  obtain ⟨same, valid⟩ := reconcileRetainedRecord_eq_ok reconciled
  let renamed : SafetyRecord := { base with actuatorIdentity := base.renamedIdentity registry }
  let proof := renamed.operatorOffProof assessment
  let evident := renamed.withEvidence history.zoneRuntime.session assessment proof
  let settled := evident.lookedFor assessment proof
  have after' : after = { settled with
      runtimeLifecycle :=
        if settled.safeToRetire history.zoneRuntime.session assessment proof then .retired
        else .deletePending } := same
  obtain ⟨blockers, owner, evidence⟩ := @withEvidence_frame renamed history.zoneRuntime.session
    assessment proof
  obtain ⟨status, incident, looked⟩ := @lookedFor_frame evident assessment proof
  have settledEq : settled = { renamed with
      blockerReasons := blockers
      possibleFlowOwner := owner
      actuatorIdentity := { renamed.actuatorIdentity with identityStatus := status }
      identityIncident := incident } := by
    rw [show settled = evident.lookedFor assessment proof from rfl, looked,
      show evident = _ from evidence]
  have registered : after.actuatorIdentity.registryEntryId =
      base.actuatorIdentity.registryEntryId := by
    rw [same]
    exact retained_registryEntryId
  have samePart : after.blockerReasons = evident.blockerReasons ∧
      after.possibleFlowOwner = evident.possibleFlowOwner := by
    rw [after', settledEq, show evident = _ from evidence]
    exact ⟨rfl, rfl⟩
  have sameProof : after.operatorOffProof assessment = proof := by
    have acked : after.removedActuatorAck = base.removedActuatorAck := by
      rw [same]
      exact retained_removedActuatorAck
    show (assessment.isNone && _) = (assessment.isNone && _)
    rw [acked]
    simp only [RemovedActuatorAcknowledgement.covers, registered]
    simp [renamed]
  refine ⟨?_, ?_, ?_, ?_, valid⟩
  · refine renamedIdentity_again registered ?_ ?_
    · rw [after', settledEq]
    · rw [after', settledEq]
      exact renamedIdentity_domain
  · rw [sameProof]
    exact withEvidence_eq_self_of_same withEvidence_again samePart.1 samePart.2
  · rw [sameProof]
    cases assessment with
    | some assessment => rfl
    | none =>
      rw [after']
      rfl
  · rw [sameProof, after']
    rfl

/-! ## The first loop -/

/-- A record without a zone is fixed by the evidence about it; every other one has a zone of
the snapshot. -/
structure RecordSettled (env : PlanEnv) (snapshot : ImmutableEntrySnapshot) (data : StoreFields)
    (k : String) (record : SafetyRecord) : Prop where
  fixed : record.activeSubentryId = none →
    ∃ history, data.zoneHistories.get? record.zoneHistoryId = some history ∧
      record.RetainedFixed env.registry history.zoneRuntime.session (env.recordAssessment k)
  configured : ∀ subentryId, record.activeSubentryId = some subentryId →
    ∃ zone ∈ snapshot.zones, zone.subentryId = subentryId

theorem recordSettled_of_reconciled {env : PlanEnv} {snapshot : ImmutableEntrySnapshot}
    {data : StoreFields} {k : String} {base after : SafetyRecord} {original history : ZoneHistory}
    (reconciled : reconcileRetainedRecord env.registry base history (env.recordAssessment k) =
      .ok after) (unowned : base.activeSubentryId = none)
    (held : data.zoneHistories.get? base.zoneHistoryId = some original)
    (same : history.zoneRuntime = original.zoneRuntime) :
    RecordSettled env snapshot data k after := by
  obtain ⟨refers, subentry⟩ := reconcileRetainedRecord_frame reconciled
  refine ⟨fun _ => ⟨original, refers ▸ held, same ▸ retainedFixed_of_reconciled reconciled⟩,
    fun subentryId owned => ?_⟩
  rw [subentry, unowned] at owned
  cases owned

/-- A turn of the first loop settles its record. -/
theorem OwnerRetained.settled {env : PlanEnv} {snapshot : ImmutableEntrySnapshot}
    {data : StoreData} {state next : PlanState} {k : String} {old : SafetyRecord}
    (histories : HistoriesRetained snapshot data.toStoreFields state)
    (present : state.records.get? k = some old)
    (retained : OwnerRetained env snapshot state k old next) :
    ∃ after, next.records.get? k = some after ∧
      RecordSettled env snapshot data.toStoreFields k after := by
  cases retained with
  | @current subentryId zone owned configured same =>
    refine ⟨old, present, fun unowned => ?_, fun subentryId' owned' => ?_⟩
    · rw [owned] at unowned
      cases unowned
    · obtain rfl := Option.some.inj (owned.symm.trans owned')
      exact ⟨zone, List.mem_of_find?_eq_some configured,
        by simpa using List.find?_some configured⟩
  | retained unowned found reconciled =>
    obtain ⟨original, held, same⟩ := histories.stored found
    exact ⟨_, Dict.get?_set_self ..,
      recordSettled_of_reconciled reconciled unowned held same.zoneRuntime⟩
  | replaced owned configured other valid found reconciled =>
    obtain ⟨original, held, same⟩ := histories.stored found
    exact ⟨_, Dict.get?_set_self ..,
      recordSettled_of_reconciled reconciled rfl held same.zoneRuntime⟩
  | @removed subentryId history reread record owned absent valid found vacated reread' reconciled =>
    obtain ⟨original, held, same⟩ := histories.stored found
    have key : old.zoneHistoryId = history.zoneHistoryId :=
      (same.zoneHistoryId.trans (data.consistent.historyKey _ original held)).symm
    rw [key, Dict.get?_set_self] at reread'
    obtain rfl := Option.some.inj reread'
    exact ⟨_, Dict.get?_set_self ..,
      recordSettled_of_reconciled reconciled rfl held same.zoneRuntime⟩

theorem ownersSettled {env : PlanEnv} {snapshot : ImmutableEntrySnapshot} {data : StoreData}
    {retained : PlanState}
    (retaining : data.safetyRecords.entries.foldlM (retainOwner env snapshot)
      (.unplanned snapshot data.toStoreFields) = .ok retained) :
    ∀ k record, retained.records.get? k = some record →
      RecordSettled env snapshot data.toStoreFields k record := by
  -- The owners that remain are as the Store has them; the others are settled.
  let remaining : List (String × SafetyRecord) → PlanState → Prop := fun rest state =>
    (rest.map Prod.fst).Nodup ∧ HistoriesRetained snapshot data.toStoreFields state ∧
      (∀ k old, (k, old) ∈ rest → state.records.get? k = some old) ∧
      ∀ k record, state.records.get? k = some record → k ∉ rest.map Prod.fst →
        RecordSettled env snapshot data.toStoreFields k record
  have finished : remaining [] retained := by
    refine Checked.foldlM_remaining ?_ ?_ retaining
    · rintro ⟨k, old⟩ rest state next ⟨distinct, histories, unprocessed, processed⟩ stepped
      obtain ⟨fresh, distinct⟩ := List.nodup_cons.mp distinct
      have present := unprocessed k old (by simp)
      have outcome := retainOwner_cases stepped
      obtain ⟨after, found, settled⟩ := outcome.settled histories present
      have others := (outcome.record present).2
      refine ⟨distinct, histories.retainOwner outcome, fun key value member => ?_,
        fun key value held outside => ?_⟩
      · have differs : key ≠ k := by
          rintro rfl
          exact fresh (List.mem_map.mpr ⟨_, member, rfl⟩)
        exact (others key differs).trans (unprocessed key value (by simp [member]))
      · by_cases here : key = k
        · subst here
          obtain rfl := Option.some.inj (found.symm.trans held)
          exact settled
        · exact processed key value ((others key here) ▸ held) (by simp [here, outside])
    · refine ⟨data.safetyRecords.nodup, historiesRetained_unplanned,
        fun k old member => Dict.get?_eq_some_iff.mpr member, fun k record held outside => ?_⟩
      exact absurd (Dict.mem_keys_iff.mpr ⟨record, Dict.get?_eq_some_iff.mp held⟩) outside
  exact fun k record held => finished.2.2.2 k record held (by simp)

/-! ## Zones that own their records -/

/-- A record that a zone may adopt again without a change. -/
structure SettledFor (env : PlanEnv) (snapshot : ImmutableEntrySnapshot)
    (zone : ImmutableZoneSnapshot) (session : Option PersistedSession) (record : SafetyRecord) :
    Prop where
  adopted : record.adopted zone record.zoneHistoryId
    (zone.appliedShadow snapshot.entrySnapshotFingerprint snapshot.observedGeneration)
    (durableActuatorIdentity zone) = record
  evident : record.withEvidence session (env.zoneAssessment zone.subentryId) false = record
  valid : Holds record.guards

theorem previousSubentries_of_current {previous : List String} {subentryId : String}
    (current : subentryId ∉ previous) :
    previousSubentries previous (some subentryId) subentryId = previous := by
  simp only [previousSubentries, if_true]
  rw [List.filter_eq_self]
  intro item member
  have differs : item ≠ subentryId := fun same => current (same ▸ member)
  simpa using differs

theorem SafetyRecord.current_not_previous {record : SafetyRecord} {subentryId : String}
    (valid : Holds record.guards) (active : record.activeSubentryId = some subentryId) :
    subentryId ∉ record.previousSubentryIds := by
  simp only [SafetyRecord.guards, idHistoryGuards, Checked.holds_append, Checked.holds_cons,
    active] at valid
  simpa using valid.1.2.2.2.2.1

theorem ZoneHistory.current_not_previous {history : ZoneHistory} {subentryId : String}
    (valid : Holds history.guards) (active : history.activeSubentryId = some subentryId) :
    subentryId ∉ history.previousSubentryIds := by
  simp only [ZoneHistory.guards, idHistoryGuards, Checked.holds_append, Checked.holds_cons,
    active] at valid
  simpa using valid.2.2.2.2.1

/-- A zone that adopts a record settles it, under the session of its history. -/
theorem ZoneAdopted.settledFor {env : PlanEnv} {snapshot : ImmutableEntrySnapshot}
    {joined next : PlanState} {prior : Option SafetyRecord} {exact : List SafetyRecord}
    {selected record : SafetyRecord} {zone : ImmutableZoneSnapshot} {createdNew : Bool}
    {history planned : ZoneHistory}
    (adopted : ZoneAdopted env snapshot joined prior exact selected zone createdNew history planned
      record next) :
    SettledFor env snapshot zone planned.zoneRuntime.session record := by
  obtain ⟨blockers, owner, evidence⟩ := @SafetyRecord.withEvidence_frame
    (selected.adopted zone (continuingHistoryId prior selected)
      (zone.appliedShadow snapshot.entrySnapshotFingerprint snapshot.observedGeneration)
      (durableActuatorIdentity zone)) planned.zoneRuntime.session
    (env.zoneAssessment zone.subentryId) false
  have same := adopted.recordEq
  have valid := adopted.recordValid
  refine ⟨?_, ?_, valid⟩
  · rw [evidence] at same
    have active : record.activeSubentryId = some zone.subentryId := by rw [same]; rfl
    have previous := previousSubentries_of_current
      (SafetyRecord.current_not_previous valid active)
    show { record with
      zoneId := zone.subentryId
      activeSubentryId := some zone.subentryId
      previousSubentryIds :=
        previousSubentries record.previousSubentryIds record.activeSubentryId zone.subentryId
      runtimeLifecycle := .active
      appliedConfig := some (zone.appliedShadow snapshot.entrySnapshotFingerprint
        snapshot.observedGeneration)
      actuatorIdentity := durableActuatorIdentity zone
      identityIncident := none } = record
    rw [active, previous, same]
    rfl
  · rw [same]
    exact withEvidence_again

/-- Taking a record settles it, with a history that has the zone's sensor. -/
theorem ZoneTakes.settled {env : PlanEnv} {snapshot : ImmutableEntrySnapshot}
    {base next : PlanState} {prior : Option SafetyRecord} {exact : List SafetyRecord}
    {zone : ImmutableZoneSnapshot} {createdNew : Bool} {selected record : SafetyRecord}
    (takes : ZoneTakes env snapshot base prior exact zone createdNew selected record next) :
    ∃ planned, next.histories.get? record.zoneHistoryId = some planned ∧
      planned.zoneRuntime.sensorIdentity = zone.currentSensorIdentity ∧
      SettledFor env snapshot zone planned.zoneRuntime.session record := by
  obtain ⟨joined, rejoined, history, planned, joining, adopted⟩ := takes.takes
  obtain ⟨-, -, -, refers⟩ := adopted.record_frame
  refine ⟨planned, ?_, ?_, adopted.settledFor⟩
  · rw [adopted.nextEq, refers]
    exact Dict.get?_set_self ..
  · rw [adopted.plannedEq]
    show (plannedZoneRuntime _ _ _ _ _ _ _).sensorIdentity = _
    unfold plannedZoneRuntime
    simp only
    split <;> rfl

/-- Taking a record leaves every other record a history with the same session; a history that
was written is the zone's. -/
theorem TakenOutcome.refersTo {env : PlanEnv} {base next : PlanState}
    {prior : Option SafetyRecord} {zone : ImmutableZoneSnapshot}
    {selected record other : SafetyRecord} {k : String} {history : ZoneHistory}
    (keyed : base.Keyed) (outcome : TakenOutcome env base next prior zone selected record)
    (found : base.records.get? k = some other) (differs : k ≠ selected.safetyRecordId)
    (held : base.histories.get? other.zoneHistoryId = some history) :
    ∃ after, next.histories.get? other.zoneHistoryId = some after ∧
      after.zoneRuntime.session = history.zoneRuntime.session ∧
      (after = history ∨ after.activeSubentryId = some zone.subentryId) := by
  by_cases here : other.zoneHistoryId = continuingHistoryId prior selected
  · obtain ⟨history', after, taken, own⟩ := outcome.history
    rw [here, taken.held] at held
    obtain rfl := Option.some.inj held
    have kept : RuntimeKept env (fun _ _ => True) history'.zoneRuntime after.zoneRuntime :=
      taken.runtimeKept trivial .refl
    refine ⟨after, here ▸ own, kept.session, .inr ?_⟩
    obtain ⟨joined, same, reevaluated, -, rfl, -⟩ := taken.taken
    rfl
  · obtain kept | ⟨-, -, unreferenced⟩ := outcome.erased _ history here held
    · exact ⟨history, kept, rfl, .inl rfl⟩
    · have referenced : base.referencedElsewhere selected.safetyRecordId other.zoneHistoryId =
          true := by
        refine List.any_eq_true.mpr ⟨other, Dict.mem_values_iff_get?.mpr ⟨k, found⟩, ?_⟩
        simp [keyed.records k other found, differs]
      rw [referenced] at unreferenced
      cases unreferenced

end MoistureLoop
