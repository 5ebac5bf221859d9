import MoistureLoop.Runtime.AppliedPass

/-! # Zones that the final gate admits

After a pass that went through, the final gate has nothing against an ON command of a zone but
a record that addresses another actuator. -/

namespace MoistureLoop

namespace RuntimeRegistry

variable {registry registry' : RuntimeRegistry} {snapshot : ImmutableEntrySnapshot}

/-! ## The final gate -/

/-- What the final gate reads of the entry once the coordinator has published the snapshot, and
until the configuration changes. -/
def publishedView (registry : RuntimeRegistry) (snapshot : ImmutableEntrySnapshot) :
    EntryView Nat where
  freshSnapshot := some snapshot
  observedSnapshot := some snapshot
  appliedSnapshot := some snapshot
  observedGeneration := snapshot.observedGeneration
  appliedGeneration := snapshot.observedGeneration
  processStopping := false
  stopping := false
  dirty := false
  reconciling := false
  failed := false
  reloadPending := false
  bindings := registry.bindings
  appliedConfig controller := registry.controllers[controller]?.bind RuntimeController.appliedConfig

def freshIdsCheck (env : PlanEnv) (snapshot : ImmutableEntrySnapshot) (data : StoreFields) : Bool :=
  snapshot.zones.all fun zone =>
    (data.safetyRecords.get? (env.mint zone.subentryId).safetyRecordId).isNone &&
      (data.zoneHistories.get? (env.mint zone.subentryId).zoneHistoryId).isNone &&
      snapshot.zones.all fun other => zone.subentryId = other.subentryId ||
        (env.mint zone.subentryId).safetyRecordId ≠ (env.mint other.subentryId).safetyRecordId &&
          (env.mint zone.subentryId).zoneHistoryId ≠ (env.mint other.subentryId).zoneHistoryId

def plansFreshCheck (registry : RuntimeRegistry) : RegistryLabel → Bool
  | .plan env _ => registry.pass.all fun pass =>
      freshIdsCheck env pass.1 registry.store.toStoreFields
  | _ => true

theorem freshIds_of_check {env : PlanEnv} {data : StoreFields}
    (checked : freshIdsCheck env snapshot data = true) : FreshIds env snapshot data := by
  simp only [freshIdsCheck, List.all_eq_true, Bool.and_eq_true, Option.isNone_iff_eq_none,
    Bool.or_eq_true, decide_eq_true_eq] at checked
  refine ⟨fun zone member => (checked zone member).1.1,
    fun zone member => (checked zone member).1.2,
    fun zone member other member' same => ?_, fun zone member other member' same => ?_⟩
  · obtain own | apart := (checked zone member).2 other member'
    · exact own
    · exact absurd same apart.1
  · obtain own | apart := (checked zone member).2 other member'
    · exact own
    · exact absurd same apart.2

theorem plansFresh_of_check {label : RegistryLabel}
    (checked : plansFreshCheck registry label = true) : PlansFresh registry label registry' := by
  rintro env saved snapshot rfl at'
  simp only [plansFreshCheck, at', Option.all_some] at checked
  exact freshIds_of_check checked

def boundCreation (seen : RuntimeController) (record : SafetyRecord) : Creation where
  zoneId := seen.zoneId
  safetyRecordId := record.safetyRecordId
  configFingerprint := ""
  config := seen.config
  today := 0

def boundController (seen : RuntimeController) (record : SafetyRecord) : ZoneController :=
  (ZoneController.create (boundCreation seen record) "run" record).updateRuntimeOwnership
    record.zoneHistoryId record.runtimeLifecycle

end RuntimeRegistry

end MoistureLoop
