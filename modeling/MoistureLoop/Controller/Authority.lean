import MoistureLoop.Controller.FlowExclusion
import MoistureLoop.Runtime.Snapshot

/-! # The authority of an ON command

`_evaluate_on_authority` rebuilds the configuration snapshot, and compares it and the
generations of the coordinator with what the controller, its binding and the canonical
record and history say.  An `EntryView` is what it reads there.  An ON command that is
authorized under a view has every predicate of the final gate verified, and the gate calls
the service in the same step. -/

namespace MoistureLoop

/-- `RuntimeControllerBinding`; the controller is given by its key. -/
structure RuntimeControllerBinding (κ : Type) where
  safetyRecordId : String
  zoneHistoryId : String
  lifecycle : RuntimeLifecycle
  appliedShadow : AppliedConfigurationShadow
  controller : κ
  quiescing : Bool

/-- What the final gate reads of the entry and of its reconciliation coordinator. -/
structure EntryView (κ : Type) where
  /-- `_build_immutable_snapshot(observed_generation)`, unless it raises. -/
  freshSnapshot : Option ImmutableEntrySnapshot
  observedSnapshot : Option ImmutableEntrySnapshot
  appliedSnapshot : Option ImmutableEntrySnapshot
  observedGeneration : Nat
  appliedGeneration : Nat
  processStopping : Bool
  stopping : Bool
  dirty : Bool
  reconciling : Bool
  failed : Bool
  reloadPending : Bool
  bindings : Dict String (RuntimeControllerBinding κ)
  appliedConfig : κ → Option AppliedConfigurationShadow

namespace EntryView

variable {κ : Type} [DecidableEq κ]

/-- The zone of a subentry in the configuration as it is now. -/
def freshZone (view : EntryView κ) (zoneId : String) : Option ImmutableZoneSnapshot :=
  view.freshSnapshot.bind fun snapshot => snapshot.bySubentryId zoneId

def currentZoneFingerprintMatches (view : EntryView κ) (key : κ) (zoneId : String) : Bool :=
  match view.freshZone zoneId, view.appliedConfig key with
  | some zone, some applied => zone.configFingerprint = applied.configFingerprint
  | _, _ => false

def currentEntrySnapshotMatches (view : EntryView κ) (key : κ) : Bool :=
  match view.freshSnapshot, view.appliedSnapshot, view.observedSnapshot, view.appliedConfig key with
  | some fresh, some applied, some observed, some shadow =>
    fresh.entrySnapshotFingerprint = applied.entrySnapshotFingerprint &&
      fresh.entrySnapshotFingerprint = observed.entrySnapshotFingerprint &&
      fresh.entrySnapshotFingerprint = shadow.entrySnapshotFingerprint
  | _, _, _, _ => false

def appliedGenerationCurrent (view : EntryView κ) (key : κ) : Bool :=
  view.observedGeneration = view.appliedGeneration &&
    (view.appliedConfig key).any (fun applied =>
      applied.appliedGeneration = view.appliedGeneration) &&
    view.freshSnapshot.all fun fresh => fresh.observedGeneration = view.appliedGeneration

/-- The coordinator's part; the slot manager's own barrier is checked with the slot. -/
def reconciliationAdmissionClear (view : EntryView κ) : Bool :=
  !(view.processStopping || view.stopping || view.dirty || view.reconciling || view.failed
    || view.reloadPending)

def runtimeLifecycleActive (view : EntryView κ) (key : κ) (controller : ZoneController) : Bool :=
  (view.bindings.get? controller.zoneId).any fun binding =>
    binding.controller = key && binding.lifecycle = .active && !binding.quiescing &&
      controller.runtimeLifecycle = .active

def canonicalOwnershipMatches (view : EntryView κ) (key : κ) (controller : ZoneController)
    (store : StoreData) : Bool :=
  match view.bindings.get? controller.zoneId,
      store.safetyRecords.get? controller.safetyRecordId,
      store.zoneHistories.get? controller.zoneHistoryId with
  | some binding, some record, some history =>
    binding.safetyRecordId = controller.safetyRecordId &&
      binding.zoneHistoryId = controller.zoneHistoryId &&
      record.safetyRecordId = controller.safetyRecordId &&
      record.zoneHistoryId = controller.zoneHistoryId &&
      record.activeSubentryId = some controller.zoneId &&
      record.runtimeLifecycle = .active &&
      history.zoneHistoryId = controller.zoneHistoryId &&
      history.activeSubentryId = some controller.zoneId &&
      record.appliedConfig.isSome &&
      record.appliedConfig = view.appliedConfig key &&
      some binding.appliedShadow = view.appliedConfig key &&
      record.actuatorIdentity.lastKnownEntityId = some controller.config.actuator
  | _, _, _ => false

/-- The failed configuration predicates, each with whether it requires quiescing. -/
def failedPredicates (view : EntryView κ) (key : κ) (controller : ZoneController)
    (store : StoreData) : List (String × Bool) :=
  (if (view.freshZone controller.zoneId).isSome then [] else [("current_subentry_exists", true)])
    ++ (if view.currentZoneFingerprintMatches key controller.zoneId then []
      else [("current_zone_fingerprint_matches", true)])
    ++ (if view.currentEntrySnapshotMatches key then []
      else [("current_entry_snapshot_matches", false)])
    ++ (if view.appliedGenerationCurrent key then [] else [("applied_generation_current", false)])
    ++ (if view.reconciliationAdmissionClear then []
      else [("reconciliation_admission_clear", false)])
    ++ (if view.runtimeLifecycleActive key controller then []
      else [("runtime_lifecycle_active", true)])
    ++ (if view.canonicalOwnershipMatches key controller store then []
      else [("canonical_ownership_matches", true)])

/-- The entry's answer to the final gate. -/
def onAuthority (view : EntryView κ) (key : κ) (controller : ZoneController) (store : StoreData)
    (reading : ActuatorAssessment) : OnAuthority where
  failedAuthority := (view.failedPredicates key controller store).map Prod.fst
  requiresQuiescing := (view.failedPredicates key controller store).any Prod.snd
  reading := reading

end EntryView

/-! ## What an authorized ON command rests on -/

/-- Record, history, binding and controller are those of one active zone, and all carry the
configuration that is current. -/
structure CanonicalOwner {κ : Type} [DecidableEq κ] (view : EntryView κ) (key : κ)
    (controller : ZoneController) (store : StoreData) (binding : RuntimeControllerBinding κ)
    (record : SafetyRecord) (history : ZoneHistory) (applied : AppliedConfigurationShadow) :
    Prop where
  bound : view.bindings.get? controller.zoneId = some binding
  recorded : store.safetyRecords.get? controller.safetyRecordId = some record
  stored : store.zoneHistories.get? controller.zoneHistoryId = some history
  applies : view.appliedConfig key = some applied
  controllerActive : controller.runtimeLifecycle = .active
  bindingActive : binding.lifecycle = .active ∧ binding.quiescing = false
  recordActive : record.runtimeLifecycle = .active
  boundController : binding.controller = key
  boundRecord : binding.safetyRecordId = controller.safetyRecordId
  boundHistory : binding.zoneHistoryId = controller.zoneHistoryId
  recordHistory : record.zoneHistoryId = controller.zoneHistoryId
  recordZone : record.activeSubentryId = some controller.zoneId
  historyZone : history.activeSubentryId = some controller.zoneId
  recordConfiguration : record.appliedConfig = some applied
  boundConfiguration : binding.appliedShadow = applied
  actuator : record.actuatorIdentity.lastKnownEntityId = some controller.config.actuator
  currentZone : ∃ zone, view.freshZone controller.zoneId = some zone ∧
    zone.configFingerprint = applied.configFingerprint
  currentEntry : ∃ fresh, view.freshSnapshot = some fresh ∧
    fresh.entrySnapshotFingerprint = applied.entrySnapshotFingerprint

/-- What holds of an ON command for `session` at the instant the service is called. -/
structure VerifiedAuthority {κ : Type} [DecidableEq κ] (view : EntryView κ) (key : κ)
    (controller : ZoneController) (shared : SharedState) (session : SessionContext)
    (reading : ActuatorAssessment) : Prop where
  canonical : ∃ binding record history applied,
    CanonicalOwner view key controller shared.store binding record history applied
  /-- The verified store holds this very session of this record, with its intent. -/
  intent : ∃ history persisted,
    shared.store.zoneHistories.get? controller.zoneHistoryId = some history ∧
    history.zoneRuntime.session = some persisted ∧
    persisted.ownerSafetyRecordId = controller.safetyRecordId ∧
    persisted.context.sessionId = session.sessionId ∧
    persisted.context.pulseIntentAtUtc.isSome = true
  owner : shared.slots.owner = some controller.zoneId
  unblocked : shared.slots.blockers = []
  barrier : shared.slots.admissionOpen = true ∧ view.reconciliationAdmissionClear = true
  generation : view.observedGeneration = view.appliedGeneration
  watering : controller.state = .watering
  commandable : controller.commandAuthorizationOpen = true
  enabled : controller.enabled = true
  uncommitted : session.pendingTerminationReason = none
  noOff : controller.offRequested = false ∧ controller.offOperationActive = false
  provenOff : reading.available = true ∧ reading.provenOff = true ∧ reading.observedOn = false

namespace EntryView

variable {κ : Type} [DecidableEq κ] {view : EntryView κ} {key : κ} {controller : ZoneController}
  {shared : SharedState} {session : SessionContext} {reading : ActuatorAssessment}

/-- Without a failed predicate the configuration is current and has one owner. -/
theorem canonicalOwner_of_failedPredicates
    (verified : view.failedPredicates key controller shared.store = []) :
    (∃ binding record history applied,
      CanonicalOwner view key controller shared.store binding record history applied) ∧
    view.reconciliationAdmissionClear = true ∧
    view.observedGeneration = view.appliedGeneration := by
  simp only [failedPredicates, List.append_eq_nil_iff, ite_eq_left_iff, List.cons_ne_nil,
    imp_false, not_not] at verified
  obtain ⟨⟨⟨⟨⟨⟨-, zoneMatches⟩, entryMatches⟩, generation⟩, barrier⟩, active⟩, canonical⟩ := verified
  simp only [appliedGenerationCurrent, Bool.and_eq_true, decide_eq_true_eq] at generation
  refine ⟨?_, barrier, generation.1.1⟩
  unfold canonicalOwnershipMatches at canonical
  split at canonical
  · rename_i binding record history bound recorded stored
    simp only [Bool.and_eq_true, decide_eq_true_eq] at canonical
    obtain ⟨⟨⟨⟨⟨⟨⟨⟨⟨⟨⟨boundRecord, boundHistory⟩, -⟩, recordHistory⟩, recordZone⟩, recordActive⟩, -⟩,
      historyZone⟩, configured⟩, recordApplied⟩, boundApplied⟩, actuator⟩ := canonical
    obtain ⟨applied, recordConfiguration⟩ := Option.isSome_iff_exists.mp configured
    have applies : view.appliedConfig key = some applied :=
      recordApplied.symm.trans recordConfiguration
    simp only [runtimeLifecycleActive, bound, Option.any_some, Bool.and_eq_true,
      decide_eq_true_eq, Bool.not_eq_true'] at active
    obtain ⟨⟨⟨boundController, lifecycle⟩, quiescing⟩, controllerActive⟩ := active
    refine ⟨binding, record, history, applied, bound, recorded, stored, applies, controllerActive,
      ⟨lifecycle, quiescing⟩, recordActive, boundController, boundRecord, boundHistory,
      recordHistory, recordZone, historyZone, recordConfiguration,
      Option.some.inj (boundApplied.trans applies), actuator, ?_, ?_⟩
    · unfold currentZoneFingerprintMatches at zoneMatches
      split at zoneMatches
      · rename_i zone shadow found held
        obtain rfl := Option.some.inj (held.symm.trans applies)
        exact ⟨zone, found, of_decide_eq_true zoneMatches⟩
      · cases zoneMatches
    · unfold currentEntrySnapshotMatches at entryMatches
      split at entryMatches
      · rename_i fresh _ _ shadow built _ _ held
        obtain rfl := Option.some.inj (held.symm.trans applies)
        simp only [Bool.and_eq_true, decide_eq_true_eq] at entryMatches
        exact ⟨fresh, built, entryMatches.2⟩
      · cases entryMatches
  · cases canonical

/-- An authorized ON command has every predicate of the final gate verified. -/
theorem verifiedAuthority_of_authorized (held : controller.session = some session)
    (authorized : (controller.evaluateOnAuthority shared session.sessionId true
      (view.onAuthority key controller shared.store reading)).authorized = true) :
    VerifiedAuthority view key controller shared session reading := by
  obtain ⟨owner, unblocked⟩ := ZoneController.slot_of_authorized authorized
  simp only [OnAuthorization.authorized, ZoneController.evaluateOnAuthority, List.isEmpty_iff,
    List.append_eq_nil_iff, ite_eq_left_iff, List.cons_ne_nil, imp_false, not_not, onAuthority,
    List.map_eq_nil_iff, ite_eq_right_iff, true_and] at authorized
  obtain ⟨⟨⟨⟨⟨⟨⟨predicates, admission⟩, commandable⟩, intended⟩, -⟩, -⟩, guards⟩, proven⟩ := authorized
  obtain ⟨canonical, barrier, generation⟩ := canonicalOwner_of_failedPredicates predicates
  simp only [ZoneController.finalOnGuardFailures, held, List.append_eq_nil_iff, ite_eq_left_iff,
    ite_eq_right_iff, List.cons_ne_nil, imp_false, not_not, ne_eq, not_true, if_false,
    Bool.not_eq_true, Bool.not_eq_false] at guards
  obtain ⟨watering, ⟨⟨⟨⟨⟨⟨⟨⟨⟨enabled, -⟩, -⟩, -⟩, uncommitted⟩, off⟩, running⟩, -⟩, -⟩, -⟩⟩ := guards
  refine ⟨canonical, ?_, owner, unblocked, ⟨admission, barrier⟩, generation, watering, commandable,
    enabled, by simpa using uncommitted, ⟨by simpa using off, by simpa using running⟩, ?_⟩
  · simp only [ZoneController.hazardIntentVerified, Option.any_eq_true, Option.bind_eq_some_iff,
      Bool.and_eq_true, decide_eq_true_eq] at intended
    obtain ⟨persisted, ⟨history, stored, kept⟩, ⟨ownedBy, same⟩, pulse⟩ := intended
    exact ⟨history, persisted, stored, kept, ownedBy, same, pulse⟩
  · have consistent := reading.consistent
    obtain ⟨available, off'⟩ := proven
    exact ⟨available, off', by simpa [off'] using consistent⟩

end EntryView

end MoistureLoop
