import MoistureLoop.Runtime.OperatorProof
import MoistureLoop.Runtime.PlanLineage
import MoistureLoop.Store.Updates

/-! # Hazards stay with their actuator

What a plan may take from a record: the hazards that a proof of OFF removes, and only on a
proof about the record's own actuator. -/

namespace MoistureLoop

open Checked (Holds)

namespace SafetyRecord

variable {record : SafetyRecord} {session : Option PersistedSession}
  {assessment : Option ActuatorAssessment} {operatorOffProof : Bool}

def Proves (assessment : Option ActuatorAssessment) (operatorOffProof : Bool) : Prop :=
  (assessment = none ∧ operatorOffProof = true) ∨
    assessment.any ActuatorAssessment.provenOff = true

theorem mem_blockersWith_of_mem {blockers : List BlockerReason} {reason other : BlockerReason}
    (present : other ∈ blockers) : other ∈ blockersWith blockers reason :=
  mem_blockersWith.mpr (.inr present)

theorem withEvidence_of_not_proves (unproven : ¬ Proves assessment operatorOffProof) :
    (∀ reason ∈ record.blockerReasons,
      reason ∈ (record.withEvidence session assessment operatorOffProof).blockerReasons) ∧
    ((record.withEvidence session assessment operatorOffProof).possibleFlowOwner = none →
      record.possibleFlowOwner = none) := by
  unfold withEvidence
  cases assessment with
  | none =>
    cases operatorOffProof with
    | true => exact absurd (.inl ⟨rfl, rfl⟩) unproven
    | false => exact ⟨fun reason present => mem_blockersWith_of_mem present, id⟩
  | some assessment =>
    have notOff : assessment.provenOff = false := by
      simpa [Proves] using unproven
    simp only [notOff, Bool.false_eq_true, if_false]
    split
    · exact ⟨fun reason present => mem_blockersWith_of_mem present, fun cleared => by cases cleared⟩
    · exact ⟨fun reason present => mem_blockersWith_of_mem present, id⟩

theorem unconfirmed_of_withEvidence (present : .integrationOffUnconfirmed ∈ record.blockerReasons) :
    .integrationOffUnconfirmed ∈
      (record.withEvidence session assessment operatorOffProof).blockerReasons := by
  by_cases proves : Proves assessment operatorOffProof
  · have proven : record.withEvidence session assessment operatorOffProof =
        record.provenOff session := by
      unfold withEvidence
      obtain ⟨rfl, rfl⟩ | off := proves
      · rfl
      · obtain ⟨assessed, rfl, proven⟩ := (Option.any_eq_true _ _).mp off
        exact if_pos proven
    rw [proven]
    simpa [provenOff, blockersWithout] using present
  · exact (withEvidence_of_not_proves proves).1 _ present

end SafetyRecord

def SameDurableActuator (zone other : ImmutableZoneSnapshot) : Prop :=
  zone.actuatorIdentity.registryEntryId = other.actuatorIdentity.registryEntryId ∧
    (zone.actuatorIdentity.registryEntryId = none → zone.currentActuator = other.currentActuator)

/-- What proves in a plan that the record's own actuator is OFF: its own assessment, a removal
proof while it is absent, or the assessment of a zone that has this actuator. -/
def OffEvidence (env : PlanEnv) (snapshot : ImmutableEntrySnapshot) (record : SafetyRecord) :
    Prop :=
  record.operatorOffProof (env.recordAssessment record.safetyRecordId) = true ∨
    (env.recordAssessment record.safetyRecordId).any ActuatorAssessment.provenOff = true ∨
    ∃ own ∈ snapshot.zones, ∃ zone ∈ snapshot.zones, record.MayBeActuatorOf own ∧
      SameDurableActuator own zone ∧
      (env.zoneAssessment zone.subentryId).any ActuatorAssessment.provenOff = true

structure HazardsStay (env : PlanEnv) (snapshot : ImmutableEntrySnapshot)
    (record after : SafetyRecord) : Prop where
  registryEntryId : record.actuatorIdentity.registryEntryId ≠ none →
    after.actuatorIdentity.registryEntryId = record.actuatorIdentity.registryEntryId
  unconfirmed : .integrationOffUnconfirmed ∈ record.blockerReasons →
    .integrationOffUnconfirmed ∈ after.blockerReasons
  fault : after.actuatorFault = record.actuatorFault ∧
    after.acknowledgementRequired = record.acknowledgementRequired
  blockers : ∀ reason ∈ record.blockerReasons, reason ∉ after.blockerReasons →
    OffEvidence env snapshot record
  owner : record.possibleFlowOwner ≠ none → after.possibleFlowOwner = none →
    OffEvidence env snapshot record

/-- How the identity of a record goes on in a plan: kept, or that of a zone whose actuator the
record may be of, which takes no record with a removal proof. -/
def IdentityCarried (snapshot : ImmutableEntrySnapshot) (record after : SafetyRecord) : Prop :=
  (after.actuatorIdentity.registryEntryId = record.actuatorIdentity.registryEntryId ∧
    (record.actuatorIdentity.registryEntryId = none →
      after.actuatorIdentity.lastKnownEntityId = record.actuatorIdentity.lastKnownEntityId)) ∨
  ∃ own ∈ snapshot.zones, record.MayBeActuatorOf own ∧ record.removedActuatorAck = none ∧
    after.actuatorIdentity.registryEntryId = own.actuatorIdentity.registryEntryId ∧
    (own.actuatorIdentity.registryEntryId = none →
      after.actuatorIdentity.lastKnownEntityId = some own.currentActuator)

/-- The invariant of a planned run: the hazards, and what the evidence about later steps is
compared with. -/
structure HazardsCarried (env : PlanEnv) (snapshot : ImmutableEntrySnapshot)
    (record after : SafetyRecord) : Prop where
  safetyRecordId : after.safetyRecordId = record.safetyRecordId
  removedActuatorAck : after.removedActuatorAck = record.removedActuatorAck
  identity : IdentityCarried snapshot record after
  unconfirmed : .integrationOffUnconfirmed ∈ record.blockerReasons →
    .integrationOffUnconfirmed ∈ after.blockerReasons
  fault : after.actuatorFault = record.actuatorFault ∧
    after.acknowledgementRequired = record.acknowledgementRequired
  blockers : ∀ reason ∈ record.blockerReasons, reason ∉ after.blockerReasons →
    OffEvidence env snapshot record
  owner : record.possibleFlowOwner ≠ none → after.possibleFlowOwner = none →
    OffEvidence env snapshot record

namespace HazardsCarried

variable {env : PlanEnv} {snapshot : ImmutableEntrySnapshot} {record before after : SafetyRecord}

theorem refl : HazardsCarried env snapshot record record :=
  ⟨rfl, rfl, .inl ⟨rfl, fun _ => rfl⟩, id, ⟨rfl, rfl⟩, fun _ present absent => absurd present absent,
    fun owned cleared => absurd cleared owned⟩

/-- A change that touches neither identity nor hazards. -/
theorem of_same (carried : HazardsCarried env snapshot record before)
    (id' : after.safetyRecordId = before.safetyRecordId)
    (ack : after.removedActuatorAck = before.removedActuatorAck)
    (identity : after.actuatorIdentity = before.actuatorIdentity)
    (fault : after.actuatorFault = before.actuatorFault ∧
      after.acknowledgementRequired = before.acknowledgementRequired)
    (blockers : ∀ reason ∈ before.blockerReasons, reason ∈ after.blockerReasons)
    (owner : after.possibleFlowOwner = before.possibleFlowOwner) :
    HazardsCarried env snapshot record after where
  safetyRecordId := id'.trans carried.safetyRecordId
  removedActuatorAck := ack.trans carried.removedActuatorAck
  identity := by
    unfold IdentityCarried
    rw [identity]
    exact carried.identity
  unconfirmed present := blockers _ (carried.unconfirmed present)
  fault := ⟨fault.1.trans carried.fault.1, fault.2.trans carried.fault.2⟩
  blockers reason present absent :=
    carried.blockers reason present fun kept => absent (blockers reason kept)
  owner owned cleared := carried.owner owned (owner ▸ cleared)

/-- Evidence about the record's actuator is weighed. -/
theorem withEvidence (carried : HazardsCarried env snapshot record before)
    {session : Option PersistedSession} {assessment : Option ActuatorAssessment}
    {operatorOffProof : Bool}
    (id' : after.safetyRecordId = before.safetyRecordId)
    (ack : after.removedActuatorAck = before.removedActuatorAck)
    (identity : IdentityCarried snapshot record after)
    (fault : after.actuatorFault = before.actuatorFault ∧
      after.acknowledgementRequired = before.acknowledgementRequired)
    (blockers : after.blockerReasons =
      (before.withEvidence session assessment operatorOffProof).blockerReasons)
    (owner : after.possibleFlowOwner =
      (before.withEvidence session assessment operatorOffProof).possibleFlowOwner)
    (evidence : SafetyRecord.Proves assessment operatorOffProof →
      OffEvidence env snapshot record) : HazardsCarried env snapshot record after where
  safetyRecordId := id'.trans carried.safetyRecordId
  removedActuatorAck := ack.trans carried.removedActuatorAck
  identity := identity
  unconfirmed present := by
    rw [blockers]
    exact SafetyRecord.unconfirmed_of_withEvidence (carried.unconfirmed present)
  fault := ⟨fault.1.trans carried.fault.1, fault.2.trans carried.fault.2⟩
  blockers reason present absent := by
    by_cases proves : SafetyRecord.Proves assessment operatorOffProof
    · exact evidence proves
    · refine carried.blockers reason present fun kept => absent ?_
      rw [blockers]
      exact (SafetyRecord.withEvidence_of_not_proves proves).1 reason kept
  owner owned cleared := by
    by_cases proves : SafetyRecord.Proves assessment operatorOffProof
    · exact evidence proves
    · rw [owner] at cleared
      exact carried.owner owned ((SafetyRecord.withEvidence_of_not_proves proves).2 cleared)

end HazardsCarried

/-! ## The steps of a planned run -/

theorem IdentityCarried.renamed {snapshot : ImmutableEntrySnapshot}
    {record before after : SafetyRecord} (carried : IdentityCarried snapshot record before)
    (registered : after.actuatorIdentity.registryEntryId =
      before.actuatorIdentity.registryEntryId)
    (unregistered : before.actuatorIdentity.registryEntryId = none →
      after.actuatorIdentity.lastKnownEntityId = before.actuatorIdentity.lastKnownEntityId) :
    IdentityCarried snapshot record after := by
  obtain ⟨same, text⟩ | ⟨own, member, mayBe, free, same, text⟩ := carried
  · refine .inl ⟨registered.trans same, fun none' => ?_⟩
    rw [unregistered (same.trans none'), text none']
  · refine .inr ⟨own, member, mayBe, free, registered.trans same, fun none' => ?_⟩
    rw [unregistered (same.trans none'), text none']

theorem IdentityCarried.adopted {snapshot : ImmutableEntrySnapshot}
    {record before : SafetyRecord} {zone : ImmutableZoneSnapshot} (member : zone ∈ snapshot.zones)
    (carried : IdentityCarried snapshot record before) (mayBe : before.MayBeActuatorOf zone)
    (free : record.removedActuatorAck = none) :
    (∃ own ∈ snapshot.zones, record.MayBeActuatorOf own ∧ SameDurableActuator own zone) ∧
      ∀ after : SafetyRecord, after.actuatorIdentity = durableActuatorIdentity zone →
        IdentityCarried snapshot record after := by
  have owned : ∃ own ∈ snapshot.zones, record.MayBeActuatorOf own ∧
      SameDurableActuator own zone := by
    obtain ⟨same, text⟩ | ⟨own, among, mayBeOwn, -, same, text⟩ := carried
    · refine ⟨zone, member, ?_, rfl, fun _ => rfl⟩
      unfold SafetyRecord.MayBeActuatorOf at mayBe ⊢
      rw [same] at mayBe
      cases registry : record.actuatorIdentity.registryEntryId with
      | some uuid => simpa [registry] using mayBe
      | none => simpa [registry, text registry] using mayBe
    · cases registry : own.actuatorIdentity.registryEntryId with
      | some uuid =>
        refine ⟨own, among, mayBeOwn, ?_, fun none' => ?_⟩
        · rw [registry]
          exact ((SafetyRecord.mayBeActuatorOf_of_registryEntryId (same.trans registry)).mp
            mayBe).symm
        · rw [registry] at none'
          cases none'
      | none =>
        -- Known by its entity ID at most, the record may be of the second zone's actuator too.
        refine ⟨zone, member, ?_, rfl, fun _ => rfl⟩
        have entity := text registry
        simp only [SafetyRecord.MayBeActuatorOf, same.trans registry, entity, reduceCtorEq,
          Option.some.injEq, false_or] at mayBe
        unfold SafetyRecord.MayBeActuatorOf at mayBeOwn ⊢
        cases known : record.actuatorIdentity.registryEntryId with
        | some uuid =>
          simp only [known] at mayBeOwn
          rw [registry] at mayBeOwn
          cases mayBeOwn
        | none =>
          simp only [known] at mayBeOwn ⊢
          rwa [mayBe] at mayBeOwn
  refine ⟨owned, fun after identity => ?_⟩
  obtain ⟨own, among, mayBeOwn, same, text⟩ := owned
  refine .inr ⟨own, among, mayBeOwn, free, ?_, fun none' => ?_⟩
  · rw [identity]
    exact same.symm
  · rw [identity, text none']
    rfl

theorem retained_fields {record : SafetyRecord} {registry : EntityRegistry}
    {session : Option PersistedSession} {assessment : Option ActuatorAssessment} :
    let renamed := { record with actuatorIdentity := record.renamedIdentity registry }
    let evident := renamed.withEvidence session assessment (renamed.operatorOffProof assessment)
    (record.retained registry session assessment).blockerReasons = evident.blockerReasons ∧
      (record.retained registry session assessment).possibleFlowOwner =
        evident.possibleFlowOwner := by
  intro renamed evident
  obtain ⟨status, incident, found⟩ := @SafetyRecord.lookedFor_frame evident assessment
    (renamed.operatorOffProof assessment)
  have same : record.retained registry session assessment =
      { evident.lookedFor assessment (renamed.operatorOffProof assessment) with
        runtimeLifecycle :=
          if (evident.lookedFor assessment (renamed.operatorOffProof assessment)).safeToRetire
            session assessment (renamed.operatorOffProof assessment) then .retired
          else .deletePending } := rfl
  rw [same, found]
  exact ⟨rfl, rfl⟩

/-- A removal proof that covers a record on its way covers the record it was given for. -/
theorem HazardsCarried.operatorOffProof {env : PlanEnv} {snapshot : ImmutableEntrySnapshot}
    {record before : SafetyRecord} {registry : EntityRegistry}
    (carried : HazardsCarried env snapshot record before)
    (proof : ({ before with actuatorIdentity := before.renamedIdentity registry } :
      SafetyRecord).operatorOffProof none = true) : record.operatorOffProof none = true := by
  simp only [SafetyRecord.operatorOffProof, Option.isNone_none, Bool.true_and,
    RemovedActuatorAcknowledgement.covers, SafetyRecord.renamedIdentity_registryEntryId,
    carried.removedActuatorAck] at proof ⊢
  obtain ⟨same, -⟩ | ⟨_, -, -, free, -, -⟩ := carried.identity
  · rwa [same] at proof
  · rw [free] at proof
    cases proof

theorem HazardsCarried.step {env : PlanEnv} {snapshot : ImmutableEntrySnapshot}
    {record before after : SafetyRecord} {event : RecordEvent}
    (carried : HazardsCarried env snapshot record before)
    (stepped : recordLife.step before event = some after)
    (planned : event.Planned env snapshot before after) :
    HazardsCarried env snapshot record after := by
  cases event with
  -- Losing its zone, a mark and a joined history leave the hazards as they are.
  | displaced subentryId =>
    obtain ⟨-, rfl⟩ := SafetyRecord.checked_eq_some_iff.mp stepped
    exact carried.of_same rfl rfl rfl ⟨rfl, rfl⟩ (fun _ present => present) rfl
  | marked incident =>
    obtain ⟨-, rfl⟩ := SafetyRecord.checked_eq_some_iff.mp stepped
    exact carried.of_same rfl rfl rfl ⟨rfl, rfl⟩
      (fun _ present => SafetyRecord.mem_blockersWith_of_mem present) rfl
  | rejoined zoneHistoryId =>
    obtain ⟨-, rfl⟩ := SafetyRecord.checked_eq_some_iff.mp stepped
    exact carried.of_same rfl rfl rfl ⟨rfl, rfl⟩ (fun _ present => present) rfl
  -- The evidence about a retained actuator is weighed, or an operator's proof.
  | reconciled registry history assessment =>
    obtain ⟨rfl, assessed⟩ := planned
    obtain ⟨rfl, -⟩ := reconcileRetainedRecord_eq_ok (Except.toOption_eq_some_iff.mp stepped)
    obtain ⟨blockers, owner⟩ := @retained_fields before env.registry history.zoneRuntime.session
      assessment
    obtain ⟨status, _, _, incident, lifecycle, same⟩ := @SafetyRecord.retained_frame before
      env.registry history.zoneRuntime.session assessment
    have renamed : HazardsCarried env snapshot record
        { before with actuatorIdentity := before.renamedIdentity env.registry } :=
      { carried with
        identity := carried.identity.renamed SafetyRecord.renamedIdentity_registryEntryId
          fun none' => by rw [SafetyRecord.renamedIdentity_of_unregistered none'] }
    refine renamed.withEvidence (by rw [same]) (by rw [same]) ?_ (by rw [same]; exact ⟨rfl, rfl⟩)
      blockers owner ?_
    · refine carried.identity.renamed SafetyRecord.retained_registryEntryId fun none' => ?_
      rw [same]
      simp only
      rw [SafetyRecord.renamedIdentity_of_unregistered none']
    · rintro (⟨absent, proof⟩ | off)
      · refine .inl ?_
        rw [← carried.safetyRecordId, ← assessed, absent]
        rw [absent] at proof
        exact carried.operatorOffProof proof
      · refine .inr (.inl ?_)
        rw [← carried.safetyRecordId, ← assessed]
        exact off
  -- The zone's own evidence is weighed, with no removal proof.
  | adopted zone zoneHistoryId shadow session assessment =>
    obtain ⟨member, rfl, mayBe⟩ := planned
    obtain ⟨valid, rfl⟩ := SafetyRecord.checked_eq_some_iff.mp stepped
    obtain ⟨blockers, owner, same⟩ := @SafetyRecord.withEvidence_frame
      (before.adopted zone zoneHistoryId shadow (durableActuatorIdentity zone)) session
      (env.zoneAssessment zone.subentryId) false
    have free : record.removedActuatorAck = none := by
      obtain ⟨kept, active⟩ := @SafetyRecord.adoptedWithEvidence_removedActuatorAck before zone
        zoneHistoryId shadow session (env.zoneAssessment zone.subentryId)
      rw [← carried.removedActuatorAck, ← kept]
      exact SafetyRecord.not_carriesRemovalProof_of_active valid active
    obtain ⟨⟨own, among, mayBeOwn, durable⟩, identity⟩ :=
      carried.identity.adopted member mayBe free
    have taken : HazardsCarried env snapshot record
        (before.adopted zone zoneHistoryId shadow (durableActuatorIdentity zone)) :=
      { carried with identity := identity _ rfl }
    refine taken.withEvidence (by rw [SafetyRecord.adoptedWithEvidence, same])
      (by rw [SafetyRecord.adoptedWithEvidence, same])
      (identity _ (by rw [SafetyRecord.adoptedWithEvidence, same]; rfl))
      (by rw [SafetyRecord.adoptedWithEvidence, same]; exact ⟨rfl, rfl⟩) rfl rfl ?_
    rintro (⟨-, proof⟩ | off)
    · cases proof
    · exact .inr (.inr ⟨own, among, zone, member, mayBeOwn, durable, off⟩)
  | blocker | controllerRuntime | faultAcknowledged | removalAcknowledged => cases planned

/-- In a plan whose zones take only records that may be of their actuators, no record of the
Store is dropped and the hazards of each stay with its actuator. -/
theorem hazardsStay_of_selectsOwnActuators {env : PlanEnv} {snapshot : ImmutableEntrySnapshot}
    {data : StoreData} {plan : PlanState} (fresh : FreshIds env snapshot data.toStoreFields)
    (selects : SelectsOwnActuators env snapshot data.toStoreFields)
    (planned : planReconciledStore env snapshot data.toStoreFields = .ok plan)
    (k : String) (record : SafetyRecord) (held : data.safetyRecords.get? k = some record) :
    ∃ after, plan.records.get? k = some after ∧ HazardsStay env snapshot record after := by
  obtain ⟨after, found, reached⟩ := planReconciledStore_descends fresh selects planned k record held
  have carried : HazardsCarried env snapshot record after :=
    reached.preserves .refl fun _ _ _ carried stepped planned => carried.step stepped planned
  refine ⟨after, found, fun registered => ?_, carried.unconfirmed, carried.fault, carried.blockers,
    carried.owner⟩
  obtain ⟨same, -⟩ | ⟨own, -, mayBe, -, same, -⟩ := carried.identity
  · exact same
  · obtain ⟨uuid, registered⟩ := Option.ne_none_iff_exists'.mp registered
    rw [same, registered]
    exact (SafetyRecord.mayBeActuatorOf_of_registryEntryId registered).mp mayBe

/-! ## A record of another actuator -/

/-- Closed histories are no obstacle: the zone takes the record it selects. -/
theorem taken_of_historiesClosed {env : PlanEnv} {snapshot : ImmutableEntrySnapshot}
    {originalActive : String → Option SafetyRecord} {state next : PlanState}
    {zone : ImmutableZoneSnapshot} {record : SafetyRecord} (keyed : state.Keyed)
    (unreported : zone.identityConflictDetail = none)
    (selecting : selectRecord env state (originalActive zone.subentryId) zone =
      .ok (.existing record))
    (closed : HistoriesClosed state (originalActive zone.subentryId) record)
    (planned : planZone env snapshot originalActive state zone = .ok next) :
    ∃ after, next.records.get? record.safetyRecordId = some after ∧
      ZoneTakes env snapshot state (originalActive zone.subentryId) (state.exactRecords zone) zone
        false record after next := by
  have continuing : continueZone env snapshot state (originalActive zone.subentryId)
      (state.exactRecords zone) record zone false = .ok next := by
    simpa [planZone, unreported, selecting, bind, Except.bind] using planned
  cases continueZone_cases continuing with
  | unjoined _ held opened => simp [closed _ _ (.inr rfl) held] at opened
  | refused _ joining held opened =>
    have outcome := joining.outcome keyed
    obtain ⟨before, present, runtime⟩ := outcome.session _ (outcome.continuing ▸ held)
    rw [← runtime, closed _ before (.inl rfl) present] at opened
    cases opened
  | @adopted joined _ rejoined after history planned joining adopted =>
    have outcome := joining.outcome keyed
    have id := adopted.record_frame.1.trans outcome.id
    exact ⟨after, by rw [adopted.nextEq, ← id, Dict.get?_set_self],
      ⟨joined, rejoined, history, planned, joining, adopted⟩⟩

/-- Until a zone takes it, a record keeps its Registry identity. -/
def IdentityUntaken (data : StoreFields) (state : PlanState) : Prop :=
  ∀ k original, data.safetyRecords.get? k = some original →
    ∃ record, state.records.get? k = some record ∧
      (record.activeSubentryId = none →
        record.actuatorIdentity.registryEntryId = original.actuatorIdentity.registryEntryId)

theorem IdentityUntaken.planZone {env : PlanEnv} {snapshot : ImmutableEntrySnapshot}
    {data : StoreData} {state next : PlanState} {zone : ImmutableZoneSnapshot}
    (fresh : FreshIds env snapshot data.toStoreFields) (member : zone ∈ snapshot.zones)
    (keyed : state.Keyed) (untaken : IdentityUntaken data.toStoreFields state)
    (planned : planZone env snapshot data.originalActive state zone = .ok next) :
    IdentityUntaken data.toStoreFields next := by
  intro k original held
  obtain ⟨record, present, same⟩ := untaken k original held
  have minted : k ≠ (env.mint zone.subentryId).safetyRecordId := by
    rintro rfl
    rw [fresh.records zone member] at held
    cases held
  obtain ⟨after, found, made⟩ := (planZone_record keyed planned).2 k record present minted
  refine ⟨after, found, ?_⟩
  cases made with
  | kept kept => obtain rfl | ⟨incident, rfl, -⟩ := kept <;> exact same
  | taken _ _ _ taken =>
    intro unowned
    rw [(taken.frame keyed).2.2] at unowned
    cases unowned

/-- The induction over the zones, with what is known of any plan between two of them. -/
theorem planReconciledStore_rule_current {env : PlanEnv} {snapshot : ImmutableEntrySnapshot}
    {data : StoreData} {plan : PlanState} (fresh : FreshIds env snapshot data.toStoreFields)
    (planned : planReconciledStore env snapshot data.toStoreFields = .ok plan)
    {property : List ImmutableZoneSnapshot → PlanState → Prop}
    (initial : ∀ retained, CurrentKept snapshot data.toStoreFields retained →
      IdentityUntaken data.toStoreFields retained → property [] retained)
    (step : ∀ earlier zone later state next, snapshot.zones = earlier ++ zone :: later →
      PlanReaches env snapshot data.toStoreFields earlier state → state.Keyed →
      CurrentKept snapshot data.toStoreFields state → IdentityUntaken data.toStoreFields state →
      property earlier state → planZone env snapshot data.originalActive state zone = .ok next →
      property (earlier ++ [zone]) next) : property snapshot.zones plan := by
  let invariant : List ImmutableZoneSnapshot → PlanState → Prop := fun earlier state =>
    CurrentKept snapshot data.toStoreFields state ∧ IdentityUntaken data.toStoreFields state ∧
      property earlier state
  have holds : invariant snapshot.zones plan := by
    refine planReconciledStore_rule planned (fun retained owners _ _ => ?_) ?_
    · have current := currentKept_of_ownersRetained owners
      have untaken : IdentityUntaken data.toStoreFields retained := by
        intro k original held
        obtain ⟨after, found, made⟩ := owners.records k original held
        exact ⟨after, found, fun _ => made.frame.2.2⟩
      exact ⟨current, untaken, initial retained current untaken⟩
    · rintro earlier zone later state next zones reached keyed ⟨current, untaken, holds⟩ stepped
      have member : zone ∈ snapshot.zones := by simp [zones]
      exact ⟨current.planZone fresh member keyed stepped,
        untaken.planZone fresh member keyed stepped,
        step earlier zone later state next zones reached keyed current untaken holds stepped⟩
  exact holds.2.2

/-- Some zone takes a record of the Store that is registered as another actuator's. -/
def TakesForeignRecord (env : PlanEnv) (snapshot : ImmutableEntrySnapshot) (data : StoreFields) :
    Prop :=
  ∃ earlier zone later state record uuid, snapshot.zones = earlier ++ zone :: later ∧
    PlanReaches env snapshot data earlier state ∧ zone.identityConflictDetail = none ∧
    selectRecord env state (data.originalActive zone.subentryId) zone =
      .ok (.existing record) ∧
    record.activeSubentryId = none ∧
    HistoriesClosed state (data.originalActive zone.subentryId) record ∧
    (data.safetyRecords.get? record.safetyRecordId).isSome = true ∧
    record.actuatorIdentity.registryEntryId = some uuid ∧
    zone.actuatorIdentity.registryEntryId ≠ some uuid

/-- The record has a zone, and not the Registry identity it had. -/
def IdentityLost (state : PlanState) (k uuid : String) : Prop :=
  ∃ record, state.records.get? k = some record ∧ record.activeSubentryId.isSome = true ∧
    record.actuatorIdentity.registryEntryId ≠ some uuid

/-- An identity that is lost does not come back. -/
theorem IdentityLost.planZone {env : PlanEnv} {snapshot : ImmutableEntrySnapshot}
    {data : StoreData} {state next : PlanState} {zone : ImmutableZoneSnapshot}
    (fresh : FreshIds env snapshot data.toStoreFields) (member : zone ∈ snapshot.zones)
    (keyed : state.Keyed) {k uuid : String} {original : SafetyRecord}
    (held : data.safetyRecords.get? k = some original)
    (displaced : ∀ zone' ∈ snapshot.zones, original.activeSubentryId = some zone'.subentryId →
      sameActuator original zone' = false)
    (lost : IdentityLost state k uuid)
    (planned : planZone env snapshot data.originalActive state zone = .ok next) :
    IdentityLost next k uuid := by
  obtain ⟨record, present, active, other⟩ := lost
  have minted : k ≠ (env.mint zone.subentryId).safetyRecordId := by
    rintro rfl
    rw [fresh.records zone member] at held
    cases held
  obtain ⟨after, found, made⟩ := (planZone_record keyed planned).2 k record present minted
  refine ⟨after, found, ?_⟩
  cases made with
  | kept kept => obtain rfl | ⟨incident, rfl, -⟩ := kept <;> exact ⟨active, other⟩
  | taken _ _ reason taken =>
    obtain ⟨-, identity, subentry⟩ := taken.frame keyed
    refine ⟨by simp [subentry], ?_⟩
    cases reason with
    | current prior same found' =>
      obtain ⟨rfl, owned, -⟩ := zone_of_current keyed member prior found' held present
      rw [displaced zone member owned] at same
      cases same
    | exact _ only =>
      have exact := List.of_mem_filter (show record ∈ state.exactRecords zone by simp [only])
      simp only [Bool.and_eq_true, decide_eq_true_eq] at exact
      rw [identity]
      exact fun again => other (exact.2.trans again)
    | mapped _ _ only =>
      have mapped := List.of_mem_filter (show record ∈ state.mappedCandidates zone by simp [only])
      simp only [Bool.and_eq_true, decide_eq_true_eq, Option.isNone_iff_eq_none] at mapped
      rw [mapped.1.2] at active
      cases active

theorem PlanReaches.unique {env : PlanEnv} {snapshot : ImmutableEntrySnapshot} {data : StoreFields}
    {earlier : List ImmutableZoneSnapshot} {state other : PlanState}
    (reached : PlanReaches env snapshot data earlier state)
    (reached' : PlanReaches env snapshot data earlier other) : state = other := by
  obtain ⟨retained, retaining, folded⟩ := reached
  obtain ⟨retained', retaining', folded'⟩ := reached'
  obtain rfl := Except.ok.inj (retaining.symm.trans retaining')
  exact Except.ok.inj (folded.symm.trans folded')

/-- A zone that takes a record registered as another actuator's takes its Registry identity. -/
theorem not_hazardsStay_of_takesForeignRecord {env : PlanEnv} {snapshot : ImmutableEntrySnapshot}
    {data : StoreData} {plan : PlanState} (fresh : FreshIds env snapshot data.toStoreFields)
    (planned : planReconciledStore env snapshot data.toStoreFields = .ok plan)
    (foreign : TakesForeignRecord env snapshot data.toStoreFields) :
    ∃ k record, data.safetyRecords.get? k = some record ∧
      ∀ after, plan.records.get? k = some after → ¬ HazardsStay env snapshot record after := by
  obtain ⟨earlier, zone, later, state, record, uuid, zones, reached, unreported, selecting, unowned,
    closed, known, registered, other⟩ := foreign
  obtain ⟨original, held⟩ := Option.isSome_iff_exists.mp known
  -- Before the zone the record has its own identity, and after it never again.
  let property : List ImmutableZoneSnapshot → PlanState → Prop := fun planned state' =>
    earlier.length < planned.length →
      original.actuatorIdentity.registryEntryId = some uuid ∧
        IdentityLost state' record.safetyRecordId uuid ∧
        ∀ zone' ∈ snapshot.zones, original.activeSubentryId = some zone'.subentryId →
          sameActuator original zone' = false
  have holds : property snapshot.zones plan := by
    refine planReconciledStore_rule_current fresh planned
      (fun retained _ _ short => absurd short (Nat.not_lt_zero _)) ?_
    intro earlier' zone' later' state' next zones' reached' keyed current untaken holds stepped long
    have member' : zone' ∈ snapshot.zones := by simp [zones']
    simp only [List.length_append, List.length_singleton] at long
    by_cases past : earlier.length < earlier'.length
    · obtain ⟨same, lost, displaced⟩ := holds past
      exact ⟨same, lost.planZone fresh member' keyed held displaced stepped, displaced⟩
    · -- This is the zone in question.
      obtain ⟨rfl, rest⟩ := List.append_inj (zones.symm.trans zones') (by omega)
      obtain ⟨rfl, -⟩ := List.cons.inj rest
      obtain rfl := reached.unique reached'
      obtain ⟨after, found, taken⟩ := taken_of_historiesClosed keyed unreported selecting closed
        stepped
      obtain ⟨-, identity, subentry⟩ := taken.frame keyed
      obtain ⟨record', present', same⟩ := untaken _ original held
      have present : state.records.get? record.safetyRecordId = some record :=
        (show SelectionReason _ _ _ _ from selectRecord_sound selecting).found keyed
      obtain rfl := Option.some.inj (present.symm.trans present')
      refine ⟨(same unowned).symm.trans registered, ⟨after, found, by simp [subentry], ?_⟩, ?_⟩
      · rw [identity]
        exact other
      · intro zone' member owned
        cases kept : sameActuator original zone' with
        | false => rfl
        | true =>
          obtain ⟨record', present'', -, active⟩ := current _ original _ zone' held owned
            (ImmutableEntrySnapshot.bySubentryId_of_mem member) kept
          obtain rfl := Option.some.inj (present.symm.trans present'')
          rw [unowned] at active
          cases active
  obtain ⟨same, ⟨lostRecord, present, -, differs⟩, -⟩ := holds (by simp [zones])
  refine ⟨_, original, held, fun after found stays => differs ?_⟩
  obtain rfl := Option.some.inj (present.symm.trans found)
  rw [stays.registryEntryId (by simp [same]), same]

/-- No record of the Store is dropped and the hazards of each stay with its actuator, when the
zones take only records that may be of their actuators; a zone that takes a record registered
as another actuator's takes its identity. -/
theorem planReconciledStore_keepsHazards {env : PlanEnv} {snapshot : ImmutableEntrySnapshot}
    {data : StoreData} {plan : PlanState} (fresh : FreshIds env snapshot data.toStoreFields)
    (planned : planReconciledStore env snapshot data.toStoreFields = .ok plan) :
    (SelectsOwnActuators env snapshot data.toStoreFields →
      ∀ k record, data.safetyRecords.get? k = some record →
        ∃ after, plan.records.get? k = some after ∧ HazardsStay env snapshot record after) ∧
    (TakesForeignRecord env snapshot data.toStoreFields →
      ¬ ∀ k record, data.safetyRecords.get? k = some record →
        ∃ after, plan.records.get? k = some after ∧ HazardsStay env snapshot record after) := by
  refine ⟨fun selects => hazardsStay_of_selectsOwnActuators fresh selects planned, ?_⟩
  intro foreign stays
  obtain ⟨k, record, held, lost⟩ := not_hazardsStay_of_takesForeignRecord fresh planned foreign
  obtain ⟨after, found, kept⟩ := stays k record held
  exact lost after found kept

/-! ## A replaced valve -/

/-- The bed `bed`, watering with a registered switch. -/
def sampleZone (registryEntryId actuator : String) : ImmutableZoneSnapshot where
  subentryId := "bed"
  config := sampleConfig "sensor.soil" actuator
  sensorIdentity := ⟨some "sensor-uuid", "sensor.soil", "sensor"⟩
  actuatorIdentity := ⟨some registryEntryId, actuator, "switch"⟩
  configFingerprint := "fingerprint of " ++ actuator

/-- A configuration with this bed alone. -/
def sampleSnapshot (registryEntryId actuator : String) : ImmutableEntrySnapshot where
  observedGeneration := 2
  entrySnapshotFingerprint := "snapshot of " ++ actuator
  zones := [sampleZone registryEntryId actuator]
  sorted := by simp

/-- The bed's switch is proven OFF; no other actuator is found. -/
def sampleEnv : PlanEnv where
  registry := fun _ => none
  stateExists := fun _ => true
  classification := fun _ => .valid
  zoneAssessment := fun _ => some ⟨true, true, false, Bool.and_false true⟩
  recordAssessment := fun _ => none
  mint := fun subentryId => ⟨"minted " ++ subentryId, "lineage " ++ subentryId,
    "history " ++ subentryId⟩
  today := 0

/-- The sample store, with water seen flowing through `switch.a`. -/
def flowingStore : StoreData where
  toStoreFields := { sampleStore.toStoreFields with
    safetyRecords :=
      ⟨[("record-a", { sampleRecord "record-a" "bed" "history-a" "uuid-a" "switch.a" with
          blockerReasons := [.externalFlow]
          possibleFlowOwner := some .external })], by decide +kernel⟩ }
  valid := by decide +kernel

/-- The plan once the bed waters with `switch.b`. -/
def replacedPlan : PlanState :=
  match planReconciledStore sampleEnv (sampleSnapshot "uuid-b" "switch.b")
    flowingStore.toStoreFields with
  | .ok plan => plan
  | .error _ => .unplanned (sampleSnapshot "uuid-b" "switch.b") flowingStore.toStoreFields

theorem sampleFresh (registryEntryId actuator : String) :
    FreshIds sampleEnv (sampleSnapshot registryEntryId actuator) flowingStore.toStoreFields where
  records zone member := by
    obtain rfl := List.mem_singleton.mp member
    show flowingStore.safetyRecords.get? "minted bed" = none
    decide +kernel
  histories zone member := by
    obtain rfl := List.mem_singleton.mp member
    show flowingStore.zoneHistories.get? "history bed" = none
    decide +kernel
  recordsDistinct zone member other member' _ := by
    rw [List.mem_singleton.mp member, List.mem_singleton.mp member']
  historiesDistinct zone member other member' _ := by
    rw [List.mem_singleton.mp member, List.mem_singleton.mp member']

theorem replaced_planned : planReconciledStore sampleEnv
    (sampleSnapshot "uuid-b" "switch.b") flowingStore.toStoreFields = .ok replacedPlan := by
  decide +kernel

/-- The plan while the bed waters with `switch.a`. -/
def keptPlan : PlanState :=
  match planReconciledStore sampleEnv (sampleSnapshot "uuid-a" "switch.a")
    flowingStore.toStoreFields with
  | .ok plan => plan
  | .error _ => .unplanned (sampleSnapshot "uuid-a" "switch.a") flowingStore.toStoreFields

theorem kept_planned : planReconciledStore sampleEnv
    (sampleSnapshot "uuid-a" "switch.a") flowingStore.toStoreFields = .ok keptPlan := by
  decide +kernel

def selectedForBed (registryEntryId actuator : String) : Option (PlanState × SafetyRecord) :=
  let snapshot := sampleSnapshot registryEntryId actuator
  let data := flowingStore.toStoreFields
  match data.safetyRecords.entries.foldlM (retainOwner sampleEnv snapshot)
      (.unplanned snapshot data) with
  | .error _ => none
  | .ok retained =>
    match selectRecord sampleEnv retained (data.originalActive "bed")
        (sampleZone registryEntryId actuator) with
    | .ok (.existing record) => some (retained, record)
    | _ => none

theorem selectedForBed_of_planReaches {registryEntryId actuator : String}
    {earlier later : List ImmutableZoneSnapshot} {zone : ImmutableZoneSnapshot}
    {state : PlanState} {record : SafetyRecord}
    (zones : (sampleSnapshot registryEntryId actuator).zones = earlier ++ zone :: later)
    (reached : PlanReaches sampleEnv (sampleSnapshot registryEntryId actuator)
      flowingStore.toStoreFields earlier state)
    (selecting : selectRecord sampleEnv state
      (flowingStore.toStoreFields.originalActive zone.subentryId) zone = .ok (.existing record)) :
    zone = sampleZone registryEntryId actuator ∧
      selectedForBed registryEntryId actuator = some (state, record) := by
  have alone : [sampleZone registryEntryId actuator] = earlier ++ zone :: later := zones
  have first : earlier = [] := by
    have counted := congrArg List.length alone
    simp only [List.length_append, List.length_cons, List.length_nil] at counted
    exact List.length_eq_zero_iff.mp (by omega)
  subst first
  obtain ⟨rfl, -⟩ := List.cons.inj alone
  obtain ⟨retained, retaining, planned⟩ := reached
  obtain rfl := Except.ok.inj planned
  simp only [sampleZone] at selecting
  exact ⟨rfl, by simp [selectedForBed, retaining, sampleZone, selecting]⟩

theorem kept_selectsOwnActuators : SelectsOwnActuators sampleEnv
    (sampleSnapshot "uuid-a" "switch.a") flowingStore.toStoreFields := by
  intro earlier zone later state record zones reached _ selecting unowned _
  obtain ⟨-, selected⟩ := selectedForBed_of_planReaches zones reached selecting
  have owned : (selectedForBed "uuid-a" "switch.a").all
      (fun taken => taken.2.activeSubentryId.isSome) = true := by
    decide +kernel
  simp [selected, unowned] at owned

theorem replaced_takesForeignRecord : TakesForeignRecord sampleEnv
    (sampleSnapshot "uuid-b" "switch.b") flowingStore.toStoreFields := by
  have given : (selectedForBed "uuid-b" "switch.b").any (fun taken =>
      taken.2.activeSubentryId.isNone &&
        taken.1.histories.entries.all (fun entry => entry.2.zoneRuntime.session.isNone) &&
        (flowingStore.safetyRecords.get? taken.2.safetyRecordId).isSome &&
        decide (taken.2.actuatorIdentity.registryEntryId = some "uuid-a")) = true := by
    decide +kernel
  obtain ⟨⟨state, record⟩, selected, given⟩ := (Option.any_eq_true _ _).mp given
  simp only [Bool.and_eq_true, Option.isNone_iff_eq_none, decide_eq_true_eq] at given
  obtain ⟨⟨⟨unowned, closed⟩, known⟩, registered⟩ := given
  simp only [selectedForBed] at selected
  split at selected
  · cases selected
  · rename_i retained retaining
    split at selected
    · rename_i record' selecting
      obtain ⟨rfl, rfl⟩ := Prod.mk.inj (Option.some.inj selected)
      refine ⟨[], sampleZone "uuid-b" "switch.b", [], retained, record', "uuid-a", rfl,
        ⟨retained, retaining, rfl⟩, rfl, selecting, unowned, ?_, known, registered, by decide⟩
      intro id history _ found
      have open' := List.all_eq_true.mp closed (id, history) (Dict.get?_eq_some_iff.mp found)
      exact Option.isNone_iff_eq_none.mp open'
    · cases selected

/-- With its own switch the hazards of the bed stay explained; with a new one they do not. -/
theorem planReconciledStore_keepsHazards_replaced :
    (∀ k record, flowingStore.safetyRecords.get? k = some record →
      ∃ after, keptPlan.records.get? k = some after ∧
        HazardsStay sampleEnv (sampleSnapshot "uuid-a" "switch.a") record after) ∧
    ¬ ∀ k record, flowingStore.safetyRecords.get? k = some record →
      ∃ after, replacedPlan.records.get? k = some after ∧
        HazardsStay sampleEnv (sampleSnapshot "uuid-b" "switch.b") record after :=
  ⟨(planReconciledStore_keepsHazards (sampleFresh "uuid-a" "switch.a") kept_planned).1
      kept_selectsOwnActuators,
    (planReconciledStore_keepsHazards (sampleFresh "uuid-b" "switch.b") replaced_planned).2
      replaced_takesForeignRecord⟩

/-- The bed's old switch, seen flowing, is gone and a new one is OFF: the old record becomes
the new switch's, and its external flow is cleared. -/
theorem not_keepsHazards_replaced :
    ¬ ∀ (env : PlanEnv) (snapshot : ImmutableEntrySnapshot) (data : StoreData) (plan : PlanState),
      FreshIds env snapshot data.toStoreFields →
      planReconciledStore env snapshot data.toStoreFields = .ok plan →
      ∀ k record, data.safetyRecords.get? k = some record →
        ∃ after, plan.records.get? k = some after ∧ HazardsStay env snapshot record after := by
  intro keeps
  have found : (flowingStore.safetyRecords.get? "record-a").isSome = true := by decide +kernel
  obtain ⟨record, held⟩ := Option.isSome_iff_exists.mp found
  obtain ⟨after, planned, stays⟩ := keeps sampleEnv (sampleSnapshot "uuid-b" "switch.b")
    flowingStore replacedPlan (sampleFresh "uuid-b" "switch.b") replaced_planned "record-a" record
    held
  have was : (flowingStore.safetyRecords.get? "record-a").map
      (fun record => record.actuatorIdentity.registryEntryId) = some (some "uuid-a") := by
    decide +kernel
  have became : (replacedPlan.records.get? "record-a").map
      (fun record => record.actuatorIdentity.registryEntryId) = some (some "uuid-b") := by
    decide +kernel
  simp only [held, Option.map_some, Option.some.injEq] at was
  simp only [planned, Option.map_some, Option.some.injEq] at became
  have same := stays.registryEntryId (by simp [was])
  rw [was, became] at same
  exact absurd same (by decide)

end MoistureLoop
