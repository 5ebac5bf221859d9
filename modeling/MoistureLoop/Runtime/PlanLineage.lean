import MoistureLoop.Runtime.Lineage
import MoistureLoop.Runtime.PlanRecords

/-! # A plan as a run of each record's life

A plan takes every record of the Store through a run of its life, under the one condition
that a zone takes a record without a subentry only if the record may be of its actuator
(`planReconciledStore_descends`). -/

namespace MoistureLoop

open Checked (Holds)

namespace SafetyRecord

/-- No identity of the record tells it apart from the zone's actuator: the Registry ID when
it has one, else its entity ID when that is known. -/
def MayBeActuatorOf (record : SafetyRecord) (zone : ImmutableZoneSnapshot) : Prop :=
  match record.actuatorIdentity.registryEntryId with
  | some uuid => zone.actuatorIdentity.registryEntryId = some uuid
  | none =>
    record.actuatorIdentity.lastKnownEntityId = none ∨
      record.actuatorIdentity.lastKnownEntityId = some zone.currentActuator

theorem mayBeActuatorOf_of_registryEntryId {record : SafetyRecord} {zone : ImmutableZoneSnapshot}
    {uuid : String} (registered : record.actuatorIdentity.registryEntryId = some uuid) :
    record.MayBeActuatorOf zone ↔ zone.actuatorIdentity.registryEntryId = some uuid := by
  simp [MayBeActuatorOf, registered]

structure HasActuatorOf (record : SafetyRecord) (zone : ImmutableZoneSnapshot) : Prop where
  registered :
    record.actuatorIdentity.registryEntryId = zone.actuatorIdentity.registryEntryId
  entity : zone.actuatorIdentity.registryEntryId = none →
    record.actuatorIdentity.lastKnownEntityId = some zone.currentActuator

theorem HasActuatorOf.mayBe {record : SafetyRecord} {zone : ImmutableZoneSnapshot}
    (own : record.HasActuatorOf zone) : record.MayBeActuatorOf zone := by
  unfold MayBeActuatorOf
  cases registry : record.actuatorIdentity.registryEntryId with
  | some uuid => exact own.registered.symm.trans registry
  | none => exact .inr (own.entity (own.registered.symm.trans registry))

theorem hasActuatorOf_of_durable {record : SafetyRecord} {zone : ImmutableZoneSnapshot}
    (durable : record.actuatorIdentity = durableActuatorIdentity zone) :
    record.HasActuatorOf zone := by
  constructor
  · rw [durable]
    rfl
  · intro _
    rw [durable]
    rfl

end SafetyRecord

def RecordEvent.Planned (env : PlanEnv) (snapshot : ImmutableEntrySnapshot)
    (record : SafetyRecord) (event : RecordEvent) (_next : SafetyRecord) : Prop :=
  match event with
  | .displaced _ | .marked _ | .rejoined _ => True
  | .reconciled registry _ assessment =>
    registry = env.registry ∧ assessment = env.recordAssessment record.safetyRecordId
  | .adopted zone _ _ _ assessment =>
    zone ∈ snapshot.zones ∧ assessment = env.zoneAssessment zone.subentryId ∧
      record.MayBeActuatorOf zone
  | _ => False

theorem hasActuatorOf_of_sameActuator {record : SafetyRecord} {zone : ImmutableZoneSnapshot}
    (valid : Holds record.guards) (same : sameActuator record zone = true) :
    record.HasActuatorOf zone := by
  unfold sameActuator at same
  cases registered : zone.actuatorIdentity.registryEntryId with
  | some uuid =>
    simp only [registered, decide_eq_true_eq] at same
    exact ⟨same.trans registered.symm, fun unregistered => by simp [registered] at unregistered⟩
  | none =>
    simp only [registered, Bool.and_eq_true, decide_eq_true_eq] at same
    obtain ⟨⟨-, unavailable⟩, entity⟩ := same
    have unregistered : record.actuatorIdentity.registryEntryId = none := by
      simp only [SafetyRecord.guards, ActuatorIdentity.guards, Checked.holds_append,
        Checked.holds_cons] at valid
      simpa [unavailable, Option.isSome_eq_false_iff] using valid.1.1.1.1.2.2.2.2.2.2.2.2.1
    exact ⟨unregistered.trans registered.symm, fun _ => entity⟩

theorem mayBeActuatorOf_of_mem_exactRecords {state : PlanState} {zone : ImmutableZoneSnapshot}
    {record : SafetyRecord} (member : record ∈ state.exactRecords zone) :
    record.MayBeActuatorOf zone := by
  have exact := List.of_mem_filter member
  simp only [Bool.and_eq_true, decide_eq_true_eq] at exact
  obtain ⟨uuid, registered⟩ := Option.isSome_iff_exists.mp exact.1
  exact (SafetyRecord.mayBeActuatorOf_of_registryEntryId (exact.2.trans registered)).mpr registered

/-- The histories that a zone would bring together have no open session. -/
def HistoriesClosed (state : PlanState) (prior : Option SafetyRecord) (record : SafetyRecord) :
    Prop :=
  ∀ id history, id = continuingHistoryId prior record ∨ id = record.zoneHistoryId →
    state.histories.get? id = some history → history.zoneRuntime.session = none

/-- A record without a subentry is taken for a zone only if it may be of the zone's
actuator. -/
def SelectsOwnActuators (env : PlanEnv) (snapshot : ImmutableEntrySnapshot) (data : StoreFields) :
    Prop :=
  ∀ earlier zone later state record, snapshot.zones = earlier ++ zone :: later →
    PlanReaches env snapshot data earlier state → zone.identityConflictDetail = none →
    selectRecord env state (data.originalActive zone.subentryId) zone =
      .ok (.existing record) →
    record.activeSubentryId = none →
    HistoriesClosed state (data.originalActive zone.subentryId) record →
    record.MayBeActuatorOf zone

/-! ## What a zone takes -/

theorem ZoneAdopted.run {env : PlanEnv} {snapshot : ImmutableEntrySnapshot}
    {joined next : PlanState} {prior : Option SafetyRecord} {exact : List SafetyRecord}
    {selected record : SafetyRecord} {zone : ImmutableZoneSnapshot} {createdNew : Bool}
    {history planned : ZoneHistory} (member : zone ∈ snapshot.zones)
    (own : selected.MayBeActuatorOf zone)
    (adopted : ZoneAdopted env snapshot joined prior exact selected zone createdNew history planned
      record next) :
    recordLife.Run (RecordEvent.Planned env snapshot) selected record := by
  refine .step (.adopted zone (continuingHistoryId prior selected)
    (zone.appliedShadow snapshot.entrySnapshotFingerprint snapshot.observedGeneration)
    planned.zoneRuntime.session (env.zoneAssessment zone.subentryId)) .refl ?_
    ⟨member, rfl, own⟩
  have same : selected.adoptedWithEvidence zone (continuingHistoryId prior selected)
      (zone.appliedShadow snapshot.entrySnapshotFingerprint snapshot.observedGeneration)
      planned.zoneRuntime.session (env.zoneAssessment zone.subentryId) = record :=
    adopted.recordEq.symm
  exact SafetyRecord.checked_eq_some_iff.mpr ⟨by rw [same]; exact adopted.recordValid, same⟩

theorem ZoneTakes.frame {env : PlanEnv} {snapshot : ImmutableEntrySnapshot}
    {base next : PlanState} {prior : Option SafetyRecord} {exact : List SafetyRecord}
    {selected record : SafetyRecord} {zone : ImmutableZoneSnapshot} {createdNew : Bool}
    (keyed : base.Keyed)
    (taken : ZoneTakes env snapshot base prior exact zone createdNew selected record next) :
    record.safetyRecordId = selected.safetyRecordId ∧
      record.actuatorIdentity = durableActuatorIdentity zone ∧
      record.activeSubentryId = some zone.subentryId := by
  obtain ⟨joined, rejoined, history, planned, joining, adopted⟩ := taken.takes
  obtain ⟨id, identity, subentry, -⟩ := adopted.record_frame
  exact ⟨id.trans (joining.outcome keyed).id, identity, subentry⟩

/-- Taking a record that may be of the zone's actuator is a run of the record's life. -/
theorem ZoneTakes.run {env : PlanEnv} {snapshot : ImmutableEntrySnapshot}
    {base next : PlanState} {prior : Option SafetyRecord} {exact : List SafetyRecord}
    {selected record : SafetyRecord} {zone : ImmutableZoneSnapshot} {createdNew : Bool}
    (keyed : base.Keyed) (member : zone ∈ snapshot.zones) (mayBe : selected.MayBeActuatorOf zone)
    (taken : ZoneTakes env snapshot base prior exact zone createdNew selected record next) :
    recordLife.Run (RecordEvent.Planned env snapshot) selected record := by
  obtain ⟨joined, rejoined, history, planned, joining, adopted⟩ := taken.takes
  have outcome := joining.outcome keyed
  have joins : recordLife.Run (RecordEvent.Planned env snapshot) selected rejoined := by
    obtain rfl | ⟨valid, rfl⟩ := outcome.rejoined
    · exact .refl
    · exact .step (.rejoined _) .refl (SafetyRecord.checked_eq_some_iff.mpr ⟨valid, rfl⟩) trivial
  refine joins.trans (adopted.run member ?_)
  simpa [SafetyRecord.MayBeActuatorOf, outcome.identity] using mayBe

/-- Nothing is taken over an open session that is not the actuator's own. -/
theorem ZoneTakes.historiesClosed {env : PlanEnv} {snapshot : ImmutableEntrySnapshot}
    {base next : PlanState} {prior : Option SafetyRecord} {exact : List SafetyRecord}
    {selected record : SafetyRecord} {zone : ImmutableZoneSnapshot} {createdNew : Bool}
    (keyed : base.Keyed)
    (other : ∀ record, continuingSameActuator prior exact record zone = false)
    (taken : ZoneTakes env snapshot base prior exact zone createdNew selected record next) :
    HistoriesClosed base prior selected := by
  obtain ⟨joined, rejoined, history, planned, joining, adopted⟩ := taken.takes
  have outcome := joining.outcome keyed
  have continuing : ∀ before, base.histories.get? (continuingHistoryId prior selected) =
      some before → before.zoneRuntime.session = none := by
    intro before held
    obtain ⟨found, present, runtime⟩ := outcome.session _ (outcome.continuing ▸ adopted.held)
    obtain rfl := Option.some.inj (present.symm.trans held)
    rw [runtime]
    exact adopted.closed (other rejoined)
  rintro id before (rfl | rfl) held
  · exact continuing before held
  · cases joining with
    | same same => exact continuing before (same ▸ held)
    | merged _ _ retained closed =>
      obtain rfl := Option.some.inj (retained.symm.trans held)
      exact closed

/-! ## The invariant of a plan -/

/-- Every record of the Store is the start of a planned run to the record it has become. -/
def Descends (env : PlanEnv) (snapshot : ImmutableEntrySnapshot) (data : StoreFields)
    (state : PlanState) : Prop :=
  ∀ k record, data.safetyRecords.get? k = some record →
    ∃ after, state.records.get? k = some after ∧
      recordLife.Run (RecordEvent.Planned env snapshot) record after

/-- The record of a zone that keeps its actuator stays with the actuator. -/
def CurrentKept (snapshot : ImmutableEntrySnapshot) (data : StoreFields) (state : PlanState) :
    Prop :=
  ∀ k record subentryId zone, data.safetyRecords.get? k = some record →
    record.activeSubentryId = some subentryId → snapshot.bySubentryId subentryId = some zone →
    sameActuator record zone = true →
    ∃ after, state.records.get? k = some after ∧ after.HasActuatorOf zone ∧
      after.activeSubentryId.isSome = true

theorem descends_of_ownersRetained {env : PlanEnv} {snapshot : ImmutableEntrySnapshot}
    {data : StoreData} {retained : PlanState}
    (owners : OwnersRetained env snapshot data.toStoreFields retained) :
    Descends env snapshot data.toStoreFields retained := by
  intro k record held
  obtain ⟨after, found, made⟩ := owners.records k record held
  refine ⟨after, found, ?_⟩
  cases made with
  | current => exact .refl
  | @reconciled base _ history origin _ checked =>
    have own := data.consistent.recordKey k record held
    have displaced : base.safetyRecordId = k ∧
        recordLife.Run (RecordEvent.Planned env snapshot) record base := by
      obtain ⟨rfl, -⟩ | ⟨subentryId, -, rfl, valid⟩ := origin
      · exact ⟨own, .refl⟩
      · exact ⟨own, .step (.displaced subentryId) .refl
          (SafetyRecord.checked_eq_some_iff.mpr ⟨valid, rfl⟩) trivial⟩
    refine displaced.2.trans (.step (.reconciled env.registry history (env.recordAssessment k))
      .refl (Except.toOption_eq_some_iff.mpr checked) ⟨rfl, ?_⟩)
    rw [displaced.1]

theorem currentKept_of_ownersRetained {env : PlanEnv} {snapshot : ImmutableEntrySnapshot}
    {data : StoreData} {retained : PlanState}
    (owners : OwnersRetained env snapshot data.toStoreFields retained) :
    CurrentKept snapshot data.toStoreFields retained := by
  intro k record subentryId zone held owned configured same
  obtain ⟨after, found, made⟩ := owners.records k record held
  cases made with
  | current =>
    exact ⟨record, found,
      hasActuatorOf_of_sameActuator (data.consistent.records k record held) same, by simp [owned]⟩
  | reconciled _ other =>
    rw [other subentryId zone owned configured] at same
    cases same

/-- The zone of the record that a turn takes for its own. -/
theorem zone_of_current {snapshot : ImmutableEntrySnapshot} {data : StoreData} {state : PlanState}
    {zone : ImmutableZoneSnapshot} {prior record : SafetyRecord} (keyed : state.Keyed)
    (member : zone ∈ snapshot.zones) (owned : data.originalActive zone.subentryId = some prior)
    (present : state.records.get? prior.safetyRecordId = some record) {k : String}
    {original : SafetyRecord} (held : data.safetyRecords.get? k = some original)
    (here : state.records.get? k = some record) :
    original = prior ∧ original.activeSubentryId = some zone.subentryId ∧
      snapshot.bySubentryId zone.subentryId = some zone := by
  obtain ⟨active, k', found⟩ := StoreFields.originalActive_eq_some owned
  have key := data.consistent.recordKey k' prior found
  have same : k = k' := by
    rw [← keyed.records k record here, keyed.records _ record present, key]
  rw [same, found] at held
  obtain rfl := Option.some.inj held
  exact ⟨rfl, active, ImmutableEntrySnapshot.bySubentryId_of_mem member⟩

/-- A turn of the second loop keeps the record of a zone with the zone's actuator. -/
theorem CurrentKept.planZone {env : PlanEnv} {snapshot : ImmutableEntrySnapshot}
    {data : StoreData} {state next : PlanState} {zone : ImmutableZoneSnapshot}
    (fresh : FreshIds env snapshot data.toStoreFields) (member : zone ∈ snapshot.zones)
    (keyed : state.Keyed) (current : CurrentKept snapshot data.toStoreFields state)
    (planned : planZone env snapshot data.originalActive state zone = .ok next) :
    CurrentKept snapshot data.toStoreFields next := by
  intro k original subentryId other held owned configured same
  obtain ⟨record, present, own, active⟩ :=
    current k original subentryId other held owned configured same
  have minted : k ≠ (env.mint zone.subentryId).safetyRecordId := by
    rintro rfl
    rw [fresh.records zone member] at held
    cases held
  obtain ⟨after, found, made⟩ := (planZone_record keyed planned).2 k record present minted
  cases made with
  | kept kept =>
    obtain rfl | ⟨incident, rfl, -⟩ := kept
    · exact ⟨_, found, own, active⟩
    · exact ⟨_, found, ⟨own.registered, own.entity⟩, active⟩
  | taken _ _ reason taken =>
    obtain ⟨-, identity, subentry⟩ := taken.frame keyed
    refine ⟨after, found, ?_, by simp [subentry]⟩
    cases reason with
    | current prior _ found' =>
      obtain ⟨-, owned', configured'⟩ := zone_of_current keyed member prior found' held present
      obtain rfl := Option.some.inj (owned.symm.trans owned')
      obtain rfl := Option.some.inj (configured.symm.trans configured')
      exact SafetyRecord.hasActuatorOf_of_durable identity
    | exact _ only =>
      have exact := List.of_mem_filter
        (show record ∈ state.exactRecords zone by simp [only])
      simp only [Bool.and_eq_true, decide_eq_true_eq] at exact
      have registered : after.actuatorIdentity.registryEntryId =
          other.actuatorIdentity.registryEntryId := by
        rw [identity, ← own.registered, exact.2]
        rfl
      refine ⟨registered, fun unregistered => ?_⟩
      rw [← exact.2, own.registered, unregistered] at exact
      cases exact.1
    | mapped _ _ only =>
      have mapped := List.of_mem_filter
        (show record ∈ state.mappedCandidates zone by simp [only])
      simp only [Bool.and_eq_true, decide_eq_true_eq, Option.isNone_iff_eq_none] at mapped
      rw [mapped.1.2] at active
      cases active

theorem mayBeActuatorOf_of_taken {env : PlanEnv} {snapshot : ImmutableEntrySnapshot}
    {data : StoreData} {earlier later : List ImmutableZoneSnapshot} {state next : PlanState}
    {zone : ImmutableZoneSnapshot} (selects : SelectsOwnActuators env snapshot data.toStoreFields)
    (zones : snapshot.zones = earlier ++ zone :: later)
    (reached : PlanReaches env snapshot data.toStoreFields earlier state) (keyed : state.Keyed)
    (current : CurrentKept snapshot data.toStoreFields state) {k : String}
    {original record after : SafetyRecord} (held : data.safetyRecords.get? k = some original)
    (present : state.records.get? k = some record) (unreported : zone.identityConflictDetail = none)
    (selecting : selectRecord env state (data.originalActive zone.subentryId) zone =
      .ok (.existing record))
    (reason : SelectionReason state (data.originalActive zone.subentryId) zone record)
    (taken : ZoneTakes env snapshot state (data.originalActive zone.subentryId)
      (state.exactRecords zone) zone false record after next) : record.MayBeActuatorOf zone := by
  have member : zone ∈ snapshot.zones := by simp [zones]
  cases reason with
  | current prior same found =>
    obtain ⟨rfl, owned, configured⟩ := zone_of_current keyed member prior found held present
    obtain ⟨record', present', own, -⟩ := current k original _ zone held owned configured same
    obtain rfl := Option.some.inj (present.symm.trans present')
    exact own.mayBe
  | exact _ only =>
    exact mayBeActuatorOf_of_mem_exactRecords
      (show record ∈ state.exactRecords zone by simp [only])
  | mapped unowned none' only =>
    have mapped := List.of_mem_filter (show record ∈ state.mappedCandidates zone by simp [only])
    simp only [Bool.and_eq_true, decide_eq_true_eq, Option.isNone_iff_eq_none] at mapped
    exact selects earlier zone later state record zones reached unreported selecting mapped.1.2
      (taken.historiesClosed keyed (continuingSameActuator_of_mapped unowned none'))

/-- A plan whose zones take only records that may be of their actuators leads every record of
the Store through a run of its life. -/
theorem planReconciledStore_descends {env : PlanEnv} {snapshot : ImmutableEntrySnapshot}
    {data : StoreData} {plan : PlanState} (fresh : FreshIds env snapshot data.toStoreFields)
    (selects : SelectsOwnActuators env snapshot data.toStoreFields)
    (planned : planReconciledStore env snapshot data.toStoreFields = .ok plan) :
    Descends env snapshot data.toStoreFields plan := by
  let invariant : List ImmutableZoneSnapshot → PlanState → Prop := fun _ state =>
    Descends env snapshot data.toStoreFields state ∧ CurrentKept snapshot data.toStoreFields state
  have holds : invariant snapshot.zones plan := by
    refine planReconciledStore_rule planned (fun retained owners _ _ =>
      ⟨descends_of_ownersRetained owners, currentKept_of_ownersRetained owners⟩) ?_
    rintro earlier zone later state next zones reached keyed ⟨descends, current⟩ stepped
    have member : zone ∈ snapshot.zones := by simp [zones]
    refine ⟨?_, current.planZone fresh member keyed stepped⟩
    intro k original held
    obtain ⟨record, present, run⟩ := descends k original held
    have minted : k ≠ (env.mint zone.subentryId).safetyRecordId := by
      rintro rfl
      rw [fresh.records zone member] at held
      cases held
    obtain ⟨after, found, made⟩ := (planZone_record keyed stepped).2 k record present minted
    refine ⟨after, found, run.trans ?_⟩
    cases made with
    | kept kept =>
      obtain rfl | ⟨incident, rfl, valid⟩ := kept
      · exact .refl
      · exact .step (.marked incident) .refl
          (SafetyRecord.checked_eq_some_iff.mpr ⟨valid, rfl⟩) trivial
    | taken unreported selecting reason taken =>
      exact taken.run keyed member (mayBeActuatorOf_of_taken selects zones reached keyed current
        held present unreported selecting reason taken)
  exact holds.1

/-! ## The record of a zone that keeps its actuator -/

theorem sameActuator_of_durable {record : SafetyRecord} {zone : ImmutableZoneSnapshot}
    (active : record.activeSubentryId = some zone.subentryId)
    (identity : record.actuatorIdentity = durableActuatorIdentity zone) :
    sameActuator record zone = true := by
  unfold sameActuator
  rw [identity]
  split
  · rename_i registered
    simp [durableActuatorIdentity, registered]
  · rename_i unregistered
    simp [durableActuatorIdentity, unregistered, active]

structure StaysWith (zone : ImmutableZoneSnapshot) (record : SafetyRecord) : Prop where
  active : record.activeSubentryId = some zone.subentryId
  same : sameActuator record zone = true
  own : record.HasActuatorOf zone

/-- A turn of the second loop leaves the zone the record of its actuator. -/
theorem StaysWith.planZone {env : PlanEnv} {snapshot : ImmutableEntrySnapshot} {data : StoreData}
    {state next : PlanState} {zone other : ImmutableZoneSnapshot} {k : String}
    {original record : SafetyRecord} (fresh : FreshIds env snapshot data.toStoreFields)
    (member : zone ∈ snapshot.zones)
    (alone : ∀ another ∈ snapshot.zones, another.actuatorIdentity.registryEntryId.isSome = true →
      another.actuatorIdentity.registryEntryId = zone.actuatorIdentity.registryEntryId →
      another = zone)
    (held : data.safetyRecords.get? k = some original)
    (owner : original.activeSubentryId = some zone.subentryId) (member' : other ∈ snapshot.zones)
    (keyed : state.Keyed) (present : state.records.get? k = some record)
    (stays : StaysWith zone record)
    (planned : planZone env snapshot data.originalActive state other = .ok next) :
    ∃ after, next.records.get? k = some after ∧ StaysWith zone after := by
  have minted : k ≠ (env.mint other.subentryId).safetyRecordId := by
    rintro rfl
    rw [fresh.records other member'] at held
    cases held
  obtain ⟨after, found, made⟩ := (planZone_record keyed planned).2 k record present minted
  refine ⟨after, found, ?_⟩
  cases made with
  | kept kept =>
    obtain rfl | ⟨incident, rfl, -⟩ := kept
    · exact stays
    · exact ⟨stays.active, stays.same, stays.own.registered, stays.own.entity⟩
  | taken _ _ reason taken =>
    obtain ⟨-, identity, subentry⟩ := taken.frame keyed
    have here : other = zone := by
      cases reason with
      | current prior _ found' =>
        obtain ⟨-, owner', -⟩ := zone_of_current keyed member' prior found' held present
        exact ImmutableEntrySnapshot.zone_unique member member'
          (Option.some.inj (owner'.symm.trans owner))
      | exact _ only =>
        have exact := List.of_mem_filter
          (show record ∈ state.exactRecords other by simp [only])
        simp only [Bool.and_eq_true, decide_eq_true_eq] at exact
        exact alone other member' exact.1 (exact.2.symm.trans stays.own.registered)
      | mapped _ _ only =>
        have mapped := List.of_mem_filter
          (show record ∈ state.mappedCandidates other by simp [only])
        simp [stays.active] at mapped
    subst here
    exact ⟨subentry, sameActuator_of_durable subentry identity,
      SafetyRecord.hasActuatorOf_of_durable identity⟩

/-- A plan, with or without conflicts, leaves a zone the record of its actuator, if no other
zone has this actuator's Registry ID. -/
theorem planReconciledStore_staysWith {env : PlanEnv} {snapshot : ImmutableEntrySnapshot}
    {data : StoreData} {plan : PlanState} {zone : ImmutableZoneSnapshot} {k : String}
    {record : SafetyRecord} (fresh : FreshIds env snapshot data.toStoreFields)
    (planned : planReconciledStore env snapshot data.toStoreFields = .ok plan)
    (member : zone ∈ snapshot.zones)
    (alone : ∀ another ∈ snapshot.zones, another.actuatorIdentity.registryEntryId.isSome = true →
      another.actuatorIdentity.registryEntryId = zone.actuatorIdentity.registryEntryId →
      another = zone)
    (held : data.safetyRecords.get? k = some record)
    (owner : record.activeSubentryId = some zone.subentryId)
    (same : sameActuator record zone = true) :
    ∃ after, plan.records.get? k = some after ∧ StaysWith zone after := by
  refine @planReconciledStore_rule _ _ _ _ (fun _ state =>
    ∃ after, state.records.get? k = some after ∧ StaysWith zone after) planned ?_ ?_
  · intro retained owners _ _
    obtain ⟨after, found, made⟩ := owners.records k record held
    refine ⟨after, found, ?_⟩
    cases made with
    | current =>
      exact ⟨owner, same, hasActuatorOf_of_sameActuator (data.consistent.records k record held) same⟩
    | reconciled _ other =>
      rw [other _ zone owner (ImmutableEntrySnapshot.bySubentryId_of_mem member)] at same
      cases same
  · rintro earlier other later state next zones _ keyed ⟨middle, present, stays⟩ stepped
    exact stays.planZone fresh member alone held owner (by simp [zones]) keyed present stepped

end MoistureLoop
