import MoistureLoop.Runtime.ApplyPass
import MoistureLoop.Runtime.Idempotence

/-! # The owner of every zone

A plan without conflicts gives every zone of the snapshot one ACTIVE record that carries the
zone's configuration, and the writes after it leave that record its owner.  `Served` says that
a binding and its controller agree with the owner, and `PositionAligned` what a pass has done
of this at each of its positions. -/

namespace MoistureLoop

open Checked (Holds)

/-! ## The owners of a plan -/

structure OwnsZone (snapshot : ImmutableEntrySnapshot) (data : StoreFields)
    (zone : ImmutableZoneSnapshot) (record : SafetyRecord) : Prop where
  found : data.safetyRecords.get? record.safetyRecordId = some record
  owner : record.activeSubentryId = some zone.subentryId
  active : record.runtimeLifecycle = .active
  applied : record.appliedConfig = some
    (zone.appliedShadow snapshot.entrySnapshotFingerprint snapshot.observedGeneration)
  identity : record.actuatorIdentity = durableActuatorIdentity zone

def ZonesOwnedBy (snapshot : ImmutableEntrySnapshot) (data : StoreFields) : Prop :=
  ∀ zone ∈ snapshot.zones, ∃ record, OwnsZone snapshot data zone record

theorem OwnsZone.eq_of_active {snapshot : ImmutableEntrySnapshot} {data : StoreData}
    {zone : ImmutableZoneSnapshot} {record other : SafetyRecord} {key : String}
    (owns : OwnsZone snapshot data.toStoreFields zone record)
    (found : data.safetyRecords.get? key = some other)
    (active : other.activeSubentryId = some zone.subentryId) : other = record := by
  have same := data.consistent.recordSubentry _ _ _ _ _ found owns.found active owns.owner
  rw [same, owns.found] at found
  exact (Option.some.inj found).symm

/-- Every turn of a plan gives its zone a settled record and leaves those of the others. -/
theorem ZonePlanned.owners {env : PlanEnv} {snapshot : ImmutableEntrySnapshot} {data : StoreData}
    {earlier later : List ImmutableZoneSnapshot} {zone : ImmutableZoneSnapshot}
    {state base next : PlanState} {selected record : SafetyRecord} {createdNew : Bool}
    (planned : ZonePlanned env snapshot data.toStoreFields earlier later zone state base next
      selected record createdNew)
    (owners : ∀ other ∈ earlier, ∃ k session after, state.records.get? k = some after ∧
      SettledFor env snapshot other session after) :
    ∀ other ∈ earlier ++ [zone], ∃ k session after, next.records.get? k = some after ∧
      SettledFor env snapshot other session after := by
  intro other member
  obtain member | rfl : other ∈ earlier ∨ other = zone := by simpa using member
  · obtain ⟨k, session, after, found, settled⟩ := owners other member
    have differs : k ≠ selected.safetyRecordId := by
      rintro rfl
      exact planned.apart.unowned other member after found settled.active.1
    refine ⟨k, session, after, ?_, settled⟩
    rw [planned.outcome.records, Dict.get?_set_of_ne _ _ differs, planned.apart.records k differs,
      found]
  · obtain ⟨history, -, -, settled⟩ := planned.takes.settled
    exact ⟨selected.safetyRecordId, history.zoneRuntime.session, record,
      by rw [planned.outcome.records, Dict.get?_set_self], settled⟩

/-- A plan without conflicts gives every zone an owner. -/
theorem planned_zonesOwnedBy {env : PlanEnv} {snapshot : ImmutableEntrySnapshot}
    {data data' : StoreData} {plan : PlanState} (fresh : FreshIds env snapshot data.toStoreFields)
    (planned : planReconciledStore env snapshot data.toStoreFields = .ok plan)
    (calm : plan.conflicts = [])
    (reconciled : reconcile data (planMutator env snapshot) = .ok data') :
    ZonesOwnedBy snapshot data'.toStoreFields := by
  have written := reconcile_eq_ok reconciled
  simp only [planMutator, planned, Except.map, Except.ok.injEq, Prod.mk.injEq] at written
  let settled : List ImmutableZoneSnapshot → PlanState → Prop := fun earlier state =>
    ∀ zone ∈ earlier, ∃ k session record, state.records.get? k = some record ∧
      SettledFor env snapshot zone session record
  obtain ⟨-, owners⟩ := @planReconciledStore_calm env snapshot data plan fresh planned calm settled
    (fun _ _ _ _ zone member => absurd member List.not_mem_nil)
    (fun turn owners => turn.owners owners)
  intro zone member
  obtain ⟨k, session, record, found, settled⟩ := owners zone member
  obtain ⟨owner, active, -⟩ := settled.active
  rw [written.1] at found
  refine ⟨record, ?_, owner, active, (congrArg SafetyRecord.appliedConfig settled.adopted).symm,
    (congrArg SafetyRecord.actuatorIdentity settled.adopted).symm⟩
  rw [data'.consistent.recordKey k record found]
  exact found

/-! ## Writes that leave the owners -/

/-- An ACTIVE record is there after the write, with the same owner. -/
def LeavesOwners (data data' : StoreFields) : Prop :=
  ∀ key record, data.safetyRecords.get? key = some record → record.runtimeLifecycle = .active →
    ∃ after, data'.safetyRecords.get? key = some after ∧
      RuntimeRegistry.sameOwner record after = true

theorem leavesOwners_refl (data : StoreFields) : LeavesOwners data data := by
  intro key record found _
  exact ⟨record, found, RuntimeRegistry.sameOwner_refl record⟩

theorem leavesOwners_of_keepsOwners {data data' : StoreFields}
    (keeps : RuntimeRegistry.keepsOwners data data' = true) : LeavesOwners data data' := by
  intro key record found _
  exact (Option.any_eq_true _ _).mp
    (List.all_eq_true.mp keeps (key, record) (Dict.get?_eq_some_iff.mp found))

/-- A refresh writes the retained records. -/
theorem leavesOwners_of_refresh {entities : EntityRegistry}
    {assessments : String → Option ActuatorAssessment} {data data' : StoreData}
    (refreshed : reconcile data (refreshTombstones entities assessments) = .ok data') :
    LeavesOwners data.toStoreFields data'.toStoreFields := by
  intro key record found active
  exact ⟨record, (record_of_refreshTombstones refreshed found).1 active,
    RuntimeRegistry.sameOwner_refl record⟩

/-- An owner that was written is an owner still, under the same IDs. -/
theorem OwnsZone.of_leaves {snapshot : ImmutableEntrySnapshot} {data data' : StoreData}
    {zone : ImmutableZoneSnapshot} {record : SafetyRecord}
    (owns : OwnsZone snapshot data.toStoreFields zone record)
    (leaves : LeavesOwners data.toStoreFields data'.toStoreFields) :
    ∃ after, OwnsZone snapshot data'.toStoreFields zone after ∧
      after.safetyRecordId = record.safetyRecordId ∧
      after.zoneHistoryId = record.zoneHistoryId := by
  obtain ⟨after, found, same⟩ := leaves _ record owns.found owns.active
  have same := RuntimeRegistry.sameOwner_iff.mp same
  have key := data'.consistent.recordKey _ after found
  refine ⟨after, ⟨?_, same.activeSubentryId.trans owns.owner,
    same.runtimeLifecycle.trans owns.active, same.appliedConfig.trans owns.applied,
    same.actuatorIdentity.trans owns.identity⟩, key, same.zoneHistoryId⟩
  rw [key]
  exact found

theorem ZonesOwnedBy.of_leaves {data data' : StoreData}
    (owned : ZonesOwnedBy snapshot data.toStoreFields)
    (leaves : LeavesOwners data.toStoreFields data'.toStoreFields) :
    ZonesOwnedBy snapshot data'.toStoreFields := by
  intro zone member
  obtain ⟨record, owns⟩ := owned zone member
  obtain ⟨after, owns', -⟩ := owns.of_leaves leaves
  exact ⟨after, owns'⟩

namespace RuntimeRegistry

/-! ## Bindings that agree with their owners -/

structure ShowsOwner (snapshot : ImmutableEntrySnapshot) (zone : ImmutableZoneSnapshot)
    (record : SafetyRecord) (seen : RuntimeController) : Prop where
  zoneId : seen.zoneId = zone.subentryId
  safetyRecordId : seen.safetyRecordId = record.safetyRecordId
  zoneHistoryId : seen.zoneHistoryId = record.zoneHistoryId
  active : seen.runtimeLifecycle = .active
  applied : seen.appliedConfig = some
    (zone.appliedShadow snapshot.entrySnapshotFingerprint snapshot.observedGeneration)

variable (registry : RuntimeRegistry) (snapshot : ImmutableEntrySnapshot)

structure Serves (zone : ImmutableZoneSnapshot) (binding : RuntimeControllerBinding Nat)
    (record : SafetyRecord) (seen : RuntimeController) : Prop where
  owns : OwnsZone snapshot registry.store.toStoreFields zone record
  safetyRecordId : binding.safetyRecordId = record.safetyRecordId
  zoneHistoryId : binding.zoneHistoryId = record.zoneHistoryId
  active : binding.lifecycle = .active
  admitted : binding.quiescing = false
  applied : binding.appliedShadow =
    zone.appliedShadow snapshot.entrySnapshotFingerprint snapshot.observedGeneration
  known : registry.controllers[binding.controller]? = some seen
  shows : ShowsOwner snapshot zone record seen

def Served (subentryId : String) (binding : RuntimeControllerBinding Nat) : Prop :=
  ∃ zone ∈ snapshot.zones, zone.subentryId = subentryId ∧
    ∃ record seen, registry.Serves snapshot zone binding record seen

/-- The bindings but those of `rest` serve their zones. -/
structure ServedBut (rest : List String) : Prop where
  owned : ZonesOwnedBy snapshot registry.store.toStoreFields
  served : ∀ subentryId binding, registry.bindings.get? subentryId = some binding →
    subentryId ∈ rest ∨ registry.Served snapshot subentryId binding

/-- The bindings serve their zones, and the zones but those of `rest` have one. -/
structure AlignedBut (rest : List ImmutableZoneSnapshot) : Prop where
  owned : ZonesOwnedBy snapshot registry.store.toStoreFields
  within : ∀ zone ∈ rest, zone ∈ snapshot.zones
  served : ∀ subentryId binding, registry.bindings.get? subentryId = some binding →
    registry.Served snapshot subentryId binding
  bound : ∀ zone ∈ snapshot.zones, zone ∈ rest ∨
    (registry.bindings.get? zone.subentryId).isSome = true

/-- The record that the pass makes a controller for. -/
structure Chosen (zone : ImmutableZoneSnapshot) (record : SafetyRecord) : Prop where
  member : zone ∈ snapshot.zones
  active : record.runtimeLifecycle = .active
  applied : record.appliedConfig = some
    (zone.appliedShadow snapshot.entrySnapshotFingerprint snapshot.observedGeneration)
  current : ∃ owner, OwnsZone snapshot registry.store.toStoreFields zone owner ∧
    owner.safetyRecordId = record.safetyRecordId ∧ owner.zoneHistoryId = record.zoneHistoryId

def AfterAligned (controller : Nat) : AfterStart → Prop
  | .displaced _ => True
  | .live zone record shadow rest =>
    registry.AlignedBut snapshot (zone :: rest) ∧ registry.Chosen snapshot zone record ∧
      record.appliedConfig = some shadow ∧
      ∃ seen, registry.controllers[controller]? = some seen ∧ ShowsOwner snapshot zone record seen
  | .retained _ _ => registry.AlignedBut snapshot []

def PositionAligned : PassPosition → Prop
  | .quiescing _ | .displacing _ | .planning => True
  | .publishing conflicts =>
    conflicts = [] → ZonesOwnedBy snapshot registry.store.toStoreFields
  | .dropping rest | .detaching _ (.dropped rest) => registry.ServedBut snapshot rest
  | .creating rest => registry.AlignedBut snapshot rest
  | .making zone record rest | .detaching _ (.replaced zone record rest) =>
    registry.AlignedBut snapshot (zone :: rest) ∧ registry.Chosen snapshot zone record
  | .preparing controller after | .starting controller after =>
    registry.AfterAligned snapshot controller after
  | .detaching _ (.released ..) | .detaching _ (.retired ..) | .releasing .. | .observing ..
  | .refreshing | .retiring _ | .rereading => registry.AlignedBut snapshot []

/-- The controllers of the two maps are those of their zones and records. -/
structure Named : Prop where
  bound : ∀ subentryId binding, registry.bindings.get? subentryId = some binding →
    ∃ seen, registry.controllers[binding.controller]? = some seen ∧ seen.zoneId = subentryId ∧
      seen.safetyRecordId = binding.safetyRecordId
  retained : ∀ safetyRecordId controller, registry.retained.get? safetyRecordId = some controller →
    ∃ seen, registry.controllers[controller]? = some seen ∧ seen.safetyRecordId = safetyRecordId

structure Aligned : Prop where
  named : registry.Named
  position : ∀ snapshot position, registry.pass = some (snapshot, position) →
    registry.PositionAligned snapshot position
  applied : ∀ snapshot, registry.applied = some snapshot →
    registry.pass = none ∧ registry.AlignedBut snapshot []
  unloading : ∀ rest, registry.unloading = some rest →
    registry.pass = none ∧ registry.applied = none

/-! ## What a step leaves -/

variable {registry snapshot} {registry' : RuntimeRegistry}

structure SameRuntimeOwner (seen seen' : RuntimeController) : Prop where
  zoneId : seen'.zoneId = seen.zoneId
  safetyRecordId : seen'.safetyRecordId = seen.safetyRecordId
  zoneHistoryId : seen'.zoneHistoryId = seen.zoneHistoryId
  runtimeLifecycle : seen'.runtimeLifecycle = seen.runtimeLifecycle
  appliedConfig : seen'.appliedConfig = seen.appliedConfig

/-- No binding, owner or controller is lost. -/
structure Leaves (registry registry' : RuntimeRegistry) : Prop where
  bindings : registry'.bindings = registry.bindings
  owners : LeavesOwners registry.store.toStoreFields registry'.store.toStoreFields
  controllers : ∀ (controller : Nat) (seen : RuntimeController),
    registry.controllers[controller]? = some seen →
    ∃ seen', registry'.controllers[controller]? = some seen' ∧ SameRuntimeOwner seen seen'

/-- A controller of an owner that was written is one of the owner as it is now. -/
theorem ShowsOwner.of_same {zone : ImmutableZoneSnapshot} {record after : SafetyRecord}
    {seen seen' : RuntimeController} (shows : ShowsOwner snapshot zone record seen)
    (same : SameRuntimeOwner seen seen')
    (key : after.safetyRecordId = record.safetyRecordId)
    (history : after.zoneHistoryId = record.zoneHistoryId) :
    ShowsOwner snapshot zone after seen' where
  zoneId := same.zoneId.trans shows.zoneId
  safetyRecordId := same.safetyRecordId.trans (shows.safetyRecordId.trans key.symm)
  zoneHistoryId := same.zoneHistoryId.trans (shows.zoneHistoryId.trans history.symm)
  active := same.runtimeLifecycle.trans shows.active
  applied := same.appliedConfig.trans shows.applied

theorem Served.of_owner {subentryId : String} {binding : RuntimeControllerBinding Nat}
    (served : registry.Served snapshot subentryId binding)
    (leaves : LeavesOwners registry.store.toStoreFields registry'.store.toStoreFields)
    (kept : ∀ seen, registry.controllers[binding.controller]? = some seen →
      seen.zoneId = subentryId → seen.safetyRecordId = binding.safetyRecordId →
      ∃ seen', registry'.controllers[binding.controller]? = some seen' ∧
        (∀ zone record, zone.subentryId = subentryId →
          OwnsZone snapshot registry.store.toStoreFields zone record →
          record.safetyRecordId = binding.safetyRecordId →
          ShowsOwner snapshot zone record seen → ShowsOwner snapshot zone record seen')) :
    registry'.Served snapshot subentryId binding := by
  obtain ⟨zone, member, named, record, seen, serves⟩ := served
  obtain ⟨after, owns, key, history⟩ := serves.owns.of_leaves leaves
  obtain ⟨seen', known, shows⟩ := kept seen serves.known (serves.shows.zoneId.trans named)
    (serves.shows.safetyRecordId.trans serves.safetyRecordId.symm)
  have shown := shows zone record named serves.owns serves.safetyRecordId.symm serves.shows
  exact ⟨zone, member, named, after, seen', owns, serves.safetyRecordId.trans key.symm,
    serves.zoneHistoryId.trans history.symm, serves.active, serves.admitted, serves.applied, known,
    shown.of_same ⟨rfl, rfl, rfl, rfl, rfl⟩ key history⟩

namespace Leaves

variable (leaves : registry.Leaves registry')

include leaves

theorem served {subentryId : String} {binding : RuntimeControllerBinding Nat}
    (served : registry.Served snapshot subentryId binding) :
    registry'.Served snapshot subentryId binding := by
  refine served.of_owner leaves.owners fun seen known _ _ => ?_
  obtain ⟨seen', known', same⟩ := leaves.controllers _ seen known
  exact ⟨seen', known', fun zone record _ _ _ shows => shows.of_same same rfl rfl⟩

theorem servedBut {rest : List String} (served : registry.ServedBut snapshot rest) :
    registry'.ServedBut snapshot rest where
  owned := served.owned.of_leaves leaves.owners
  served := by
    intro subentryId binding found
    rw [leaves.bindings] at found
    exact (served.served subentryId binding found).imp_right leaves.served

theorem alignedBut {rest : List ImmutableZoneSnapshot}
    (aligned : registry.AlignedBut snapshot rest) : registry'.AlignedBut snapshot rest where
  owned := aligned.owned.of_leaves leaves.owners
  within := aligned.within
  served := by
    intro subentryId binding found
    rw [leaves.bindings] at found
    exact leaves.served (aligned.served subentryId binding found)
  bound := by
    rw [leaves.bindings]
    exact aligned.bound

theorem chosen {zone : ImmutableZoneSnapshot} {record : SafetyRecord}
    (chosen : registry.Chosen snapshot zone record) : registry'.Chosen snapshot zone record where
  member := chosen.member
  active := chosen.active
  applied := chosen.applied
  current := by
    obtain ⟨owner, owns, key, history⟩ := chosen.current
    obtain ⟨after, owns', key', history'⟩ := owns.of_leaves leaves.owners
    exact ⟨after, owns', key'.trans key, history'.trans history⟩

theorem afterAligned {controller : Nat} {after : AfterStart}
    (aligned : registry.AfterAligned snapshot controller after) :
    registry'.AfterAligned snapshot controller after := by
  cases after with
  | displaced => trivial
  | retained => exact leaves.alignedBut aligned
  | live zone record shadow rest =>
    obtain ⟨aligned, chosen, applied, seen, known, shows⟩ := aligned
    obtain ⟨seen', known', same⟩ := leaves.controllers _ seen known
    exact ⟨leaves.alignedBut aligned, leaves.chosen chosen, applied, seen', known',
      shows.of_same same rfl rfl⟩

theorem positionAligned {position : PassPosition}
    (aligned : registry.PositionAligned snapshot position) :
    registry'.PositionAligned snapshot position := by
  cases position with
  | quiescing | displacing | planning => trivial
  | publishing => exact fun calm => (aligned calm).of_leaves leaves.owners
  | dropping => exact leaves.servedBut aligned
  | creating => exact leaves.alignedBut aligned
  | making => exact ⟨leaves.alignedBut aligned.1, leaves.chosen aligned.2⟩
  | preparing | starting => exact leaves.afterAligned aligned
  | detaching controller after =>
    cases after with
    | dropped => exact leaves.servedBut aligned
    | replaced => exact ⟨leaves.alignedBut aligned.1, leaves.chosen aligned.2⟩
    | released | retired => exact leaves.alignedBut aligned
  | releasing | observing | refreshing | retiring | rereading => exact leaves.alignedBut aligned

theorem named (named : registry.Named)
    (retained : ∀ safetyRecordId controller,
      registry'.retained.get? safetyRecordId = some controller →
      registry.retained.get? safetyRecordId = some controller) : registry'.Named where
  bound := by
    intro subentryId binding found
    rw [leaves.bindings] at found
    obtain ⟨seen, known, zone, key⟩ := named.bound subentryId binding found
    obtain ⟨seen', known', same⟩ := leaves.controllers _ seen known
    exact ⟨seen', known', same.zoneId.trans zone, same.safetyRecordId.trans key⟩
  retained := by
    intro own controller found
    obtain ⟨seen, known, key⟩ := named.retained own controller (retained own controller found)
    obtain ⟨seen', known', same⟩ := leaves.controllers _ seen known
    exact ⟨seen', known', same.safetyRecordId.trans key⟩

/-- A step that leaves the pass where it is. -/
theorem aligned (aligned : registry.Aligned) (retained : registry'.retained = registry.retained)
    (pass : registry'.pass = registry.pass) (applied : registry'.applied = registry.applied)
    (unloading : registry'.unloading = registry.unloading) : registry'.Aligned where
  named := by
    refine leaves.named aligned.named fun own controller found => ?_
    rwa [retained] at found
  position := by
    intro snapshot position at'
    rw [pass] at at'
    exact leaves.positionAligned (aligned.position snapshot position at')
  applied := by
    intro snapshot at'
    rw [applied] at at'
    rw [pass]
    exact (aligned.applied snapshot at').imp_right leaves.alignedBut
  unloading := by
    rw [pass, applied, unloading]
    exact aligned.unloading

end Leaves

theorem leaves_modify {controller : Nat} {change : RuntimeController → RuntimeController}
    (changes : ∀ seen, SameRuntimeOwner seen (change seen)) :
    registry.Leaves (registry.modify controller change) where
  bindings := rfl
  owners := leavesOwners_refl _
  controllers := by
    intro other seen known
    simp only [modify, List.getElem?_modify, known]
    by_cases here : controller = other
    · exact ⟨change seen, by simp [here], changes seen⟩
    · exact ⟨seen, by simp [here], rfl, rfl, rfl, rfl, rfl⟩

theorem leaves_append (created : RuntimeController) :
    registry.Leaves { registry with controllers := registry.controllers ++ [created] } where
  bindings := rfl
  owners := leavesOwners_refl _
  controllers := by
    intro controller seen known
    obtain ⟨present, -⟩ := List.getElem?_eq_some_iff.mp known
    exact ⟨seen, by rw [List.getElem?_append_left present, known], rfl, rfl, rfl, rfl, rfl⟩

/-- A write of the store, with the rest of the registry as it is. -/
theorem leaves_stored {data : StoreData}
    (owners : LeavesOwners registry.store.toStoreFields data.toStoreFields) :
    registry.Leaves { registry with store := data } where
  bindings := rfl
  owners := owners
  controllers _ seen known := ⟨seen, known, rfl, rfl, rfl, rfl, rfl⟩

end RuntimeRegistry

end MoistureLoop
