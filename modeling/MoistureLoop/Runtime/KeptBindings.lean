import MoistureLoop.Runtime.BindingMoves

/-! # Bindings that outlive a pass

A binding for a record that owns a zone, with the zone's actuator, stays with its controller
through every step of a pass whose snapshot has the zone with this actuator: the plan finds the
record again, so the binding is kept and none is made (`KeptFor.step`). -/

namespace MoistureLoop

open Checked (Holds)

def ImmutableEntrySnapshot.keepsActuator (snapshot : ImmutableEntrySnapshot)
    (zone : ImmutableZoneSnapshot) : Bool :=
  snapshot.zones.any fun other =>
    other.subentryId = zone.subentryId &&
      other.actuatorIdentity.registryEntryId = zone.actuatorIdentity.registryEntryId &&
      (zone.actuatorIdentity.registryEntryId.isSome ||
        other.currentActuator = zone.currentActuator) &&
      snapshot.zones.all fun another =>
        another.subentryId = other.subentryId ||
          another.actuatorIdentity.registryEntryId.isNone ||
          another.actuatorIdentity.registryEntryId ≠ other.actuatorIdentity.registryEntryId

structure KeepsZone (snapshot : ImmutableEntrySnapshot) (zone other : ImmutableZoneSnapshot) :
    Prop where
  member : other ∈ snapshot.zones
  subentryId : other.subentryId = zone.subentryId
  same : ∀ record, sameActuator record other = sameActuator record zone
  alone : ∀ another ∈ snapshot.zones, another.actuatorIdentity.registryEntryId.isSome = true →
    another.actuatorIdentity.registryEntryId = other.actuatorIdentity.registryEntryId →
    another = other

theorem exists_of_keepsActuator {snapshot : ImmutableEntrySnapshot} {zone : ImmutableZoneSnapshot}
    (keeps : snapshot.keepsActuator zone = true) : ∃ other, KeepsZone snapshot zone other := by
  obtain ⟨other, member, keeps⟩ := List.any_eq_true.mp keeps
  simp only [Bool.and_eq_true, Bool.or_eq_true, decide_eq_true_eq, List.all_eq_true,
    Option.isNone_iff_eq_none] at keeps
  obtain ⟨⟨⟨subentryId, registered⟩, entity⟩, alone⟩ := keeps
  refine ⟨other, member, subentryId, fun record => ?_, fun another member' known same => ?_⟩
  · unfold sameActuator
    rw [registered, subentryId]
    split
    · rfl
    · rename_i unregistered
      obtain known | entity := entity
      · simp [unregistered] at known
      · rw [entity]
  · obtain (own | unknown) | differs := alone another member'
    · exact ImmutableEntrySnapshot.zone_unique member member' own
    · simp [unknown] at known
    · exact absurd same differs

namespace RuntimeRegistry

variable {registry registry' : RuntimeRegistry} {snapshot : ImmutableEntrySnapshot}
  {position : PassPosition} {current : Bool} {zone : ImmutableZoneSnapshot} {controller : Nat}

/-! ## Controllers in the making -/

/-- A pass makes controllers only for zones without a binding. -/
def Unbound (registry : RuntimeRegistry) : Prop :=
  ∀ snapshot position subentryId, registry.pass = some (snapshot, position) →
    position.making? = some subentryId → registry.bindings.get? subentryId = none

theorem Unbound.of_pass (pass : registry'.pass = none) : registry'.Unbound := by
  intro snapshot position subentryId at'
  rw [pass] at at'
  cases at'

theorem Unbound.of_same (unbound : registry.Unbound) (pass : registry'.pass = registry.pass)
    (bindings : registry'.bindings = registry.bindings) : registry'.Unbound := by
  intro snapshot position subentryId at' makes
  rw [bindings]
  exact unbound snapshot position subentryId (pass ▸ at') makes

theorem Unbound.of_making (making : ∀ snapshot position,
    registry'.pass = some (snapshot, position) → position.making? = none) :
    registry'.Unbound := by
  intro snapshot position subentryId at' makes
  rw [making snapshot position at'] at makes
  cases makes

theorem Unbound.step {label : RegistryLabel} (unbound : registry.Unbound)
    (aligned : registry.Aligned) (stepped : registry.step label = some registry') :
    registry'.Unbound := by
  cases label with
  | begin snapshot =>
    obtain ⟨-, same⟩ := Option.ite_none_right_eq_some.mp stepped
    obtain rfl := Option.some.inj same
    refine .of_making fun snapshot position at' => ?_
    obtain ⟨-, rfl⟩ := Prod.mk.inj (Option.some.inj at')
    rfl
  | go current =>
    simp only [RuntimeRegistry.step] at stepped
    split at stepped
    · cases stepped
    · rename_i snapshot position at'
      split at stepped
      · cases stepped
      · intro snapshot' position' subentryId moved makes
        -- A turn that goes on to make a controller has found its zone unbound.
        obtain ⟨-, -, making⟩ := (advance_advanced stepped).pass snapshot' position' moved
        obtain ⟨same, made | free⟩ := making subentryId makes
        · rw [same]
          exact unbound snapshot position subentryId at' made
        · rw [same]
          exact free
  | plan env saved =>
    simp only [RuntimeRegistry.step] at stepped
    split at stepped
    · obtain rfl := Option.some.inj stepped
      split
      · refine .of_making fun snapshot position at' => ?_
        obtain ⟨-, rfl⟩ := Prod.mk.inj (Option.some.inj at')
        rfl
      · exact .of_pass rfl
    · cases stepped
  | refresh entities assessments saved =>
    simp only [RuntimeRegistry.step] at stepped
    split at stepped
    · obtain rfl := Option.some.inj stepped
      split
      · refine .of_making fun snapshot position at' => ?_
        obtain ⟨-, rfl⟩ := Prod.mk.inj (Option.some.inj at')
        rfl
      · exact .of_pass rfl
    · cases stepped
  | raise =>
    obtain ⟨pass, -, rfl⟩ := Option.map_eq_some_iff.mp stepped
    exact .of_pass rfl
  | stored write =>
    obtain ⟨data, -, rfl⟩ := Option.map_eq_some_iff.mp stepped
    exact unbound.of_same rfl rfl
  | quiesce | renamed | stop =>
    obtain rfl := Option.some.inj stepped
    exact unbound.of_same rfl rfl
  | unload =>
    obtain ⟨-, same⟩ := Option.ite_none_right_eq_some.mp stepped
    obtain rfl := Option.some.inj same
    exact unbound.of_same rfl rfl
  | detachNext =>
    simp only [RuntimeRegistry.step] at stepped
    split at stepped
    · cases stepped
    · rename_i unloading
      obtain rfl := Option.some.inj stepped
      -- The bindings are dropped while no pass runs.
      exact .of_pass (aligned.unloading _ unloading).1
    · obtain rfl := Option.some.inj stepped
      exact unbound.of_same rfl rfl

/-! ## A binding that is kept -/

structure KeptFor (registry : RuntimeRegistry) (zone : ImmutableZoneSnapshot) (controller : Nat) :
    Prop where
  kept : ∃ binding record, registry.bindings.get? zone.subentryId = some binding ∧
    binding.controller = controller ∧
    registry.store.safetyRecords.get? binding.safetyRecordId = some record ∧
    record.activeSubentryId = some zone.subentryId ∧ sameActuator record zone = true

theorem KeptFor.of_maps (kept : registry.KeptFor zone controller)
    (bindings : registry'.bindings = registry.bindings)
    (records : ∀ key record, registry.store.safetyRecords.get? key = some record →
      record.activeSubentryId = some zone.subentryId → sameActuator record zone = true →
      ∃ after, registry'.store.safetyRecords.get? key = some after ∧
        after.activeSubentryId = some zone.subentryId ∧ sameActuator after zone = true) :
    registry'.KeptFor zone controller := by
  obtain ⟨binding, record, bound, own, found, active, same⟩ := kept.kept
  obtain ⟨after, found', active', same'⟩ := records _ record found active same
  exact ⟨binding, after, bindings ▸ bound, own, found', active', same'⟩

theorem KeptFor.of_leaves (kept : registry.KeptFor zone controller)
    (bindings : registry'.bindings = registry.bindings)
    (leaves : LeavesOwners registry.store.toStoreFields registry'.store.toStoreFields) :
    registry'.KeptFor zone controller := by
  refine kept.of_maps bindings fun key record found active same => ?_
  have valid := registry.store.consistent.records key record found
  obtain ⟨after, found', owner⟩ := leaves key record found (active_of_owned valid active)
  have owner := sameOwner_iff.mp owner
  refine ⟨after, found', owner.activeSubentryId.trans active, ?_⟩
  unfold sameActuator at same ⊢
  rwa [owner.actuatorIdentity, owner.activeSubentryId]

theorem keptRecord_isSome {other : ImmutableZoneSnapshot}
    {binding : RuntimeControllerBinding Nat} {record : SafetyRecord}
    (owned : ZonesOwnedBy snapshot registry.store.toStoreFields)
    (keeps : KeepsZone snapshot zone other)
    (found : registry.store.safetyRecords.get? binding.safetyRecordId = some record)
    (active : record.activeSubentryId = some zone.subentryId) :
    registry.keptRecord snapshot zone.subentryId binding ≠ none := by
  obtain ⟨owner, owns⟩ := owned other keeps.member
  obtain rfl := owns.eq_of_active found (active.trans (congrArg some keeps.subentryId.symm))
  have configured := ImmutableEntrySnapshot.bySubentryId_of_mem keeps.member
  rw [keeps.subentryId] at configured
  simp [keptRecord, configured, found, owns.applied, owns.active, active,
    ImmutableZoneSnapshot.appliedShadow]

theorem KeptFor.advance (kept : registry.KeptFor zone controller) (aligned : registry.Aligned)
    (unbound : registry.Unbound) (at' : registry.pass = some (snapshot, position))
    (keeps : position.planned = true → snapshot.keepsActuator zone = true)
    (advanced : registry.advance snapshot current position = some registry') :
    registry'.KeptFor zone controller := by
  have moved := advance_advanced advanced
  obtain ⟨binding, record, bound, own, found, active, same⟩ := kept.kept
  have stays : ∀ bindings, BindingsMoved registry snapshot position bindings →
      ∃ binding', bindings.get? zone.subentryId = some binding' ∧
        binding'.controller = controller ∧
        binding'.safetyRecordId = binding.safetyRecordId := by
    intro bindings outcome
    cases outcome with
    | same => exact ⟨binding, bound, own, rfl⟩
    | @renewed subentryId before renewed held record' controller' =>
      by_cases here : zone.subentryId = subentryId
      · subst here
        obtain rfl := Option.some.inj (bound.symm.trans held)
        exact ⟨renewed, Dict.get?_set_self .., controller'.trans own, record'⟩
      · exact ⟨binding, (Dict.get?_set_of_ne _ _ here).trans bound, own, rfl⟩
    | @dropped subentryId before rest dropping held unkept =>
      by_cases here : zone.subentryId = subentryId
      · -- The zone's binding is for the record that the plan gave it.
        subst here dropping
        obtain rfl := Option.some.inj (bound.symm.trans held)
        obtain ⟨other, keeps⟩ := exists_of_keepsActuator (keeps rfl)
        have served : registry.ServedBut snapshot (zone.subentryId :: rest) :=
          aligned.position snapshot _ at'
        exact absurd unkept (keptRecord_isSome served.owned keeps found active)
      · exact ⟨binding, (Dict.get?_erase_of_ne _ here).trans bound, own, rfl⟩
    | @bound subentryId made making =>
      by_cases here : zone.subentryId = subentryId
      · subst here
        have free := unbound snapshot position _ at' making
        rw [bound] at free
        cases free
      · exact ⟨binding, (Dict.get?_set_of_ne _ _ here).trans bound, own, rfl⟩
  obtain ⟨binding', bound', own', record'⟩ := stays _ moved.bindings
  refine ⟨binding', record, bound', own', ?_, active, same⟩
  rw [moved.store, record']
  exact found

theorem KeptFor.planned {env : PlanEnv} {plan : PlanState} {data : StoreData}
    (kept : registry.KeptFor zone controller)
    (fresh : FreshIds env snapshot registry.store.toStoreFields)
    (planned : planReconciledStore env snapshot registry.store.toStoreFields = .ok plan)
    (written : reconcile registry.store (planMutator env snapshot) = .ok data)
    (keeps : snapshot.keepsActuator zone = true) :
    ({ registry with store := data } : RuntimeRegistry).KeptFor zone controller := by
  obtain ⟨other, keeps⟩ := exists_of_keepsActuator keeps
  have same := reconcile_eq_ok written
  simp only [planMutator, planned, Except.map, Except.ok.injEq, Prod.mk.injEq] at same
  refine kept.of_maps rfl fun key record found active own => ?_
  obtain ⟨after, found', stays⟩ := planReconciledStore_staysWith fresh planned keeps.member
    keeps.alone found (active.trans (congrArg some keeps.subentryId.symm))
    ((keeps.same record).trans own)
  refine ⟨after, ?_, stays.active.trans (congrArg some keeps.subentryId),
    (keeps.same after).symm.trans stays.same⟩
  show data.safetyRecords.get? key = some after
  rw [← same.1]
  exact found'

theorem KeptFor.step {label : RegistryLabel} (kept : registry.KeptFor zone controller)
    (aligned : registry.Aligned) (unbound : registry.Unbound)
    (stepped : registry.step label = some registry') (fresh : PlansFresh registry label registry')
    (loaded : registry.unloading = none)
    (before : ∀ snapshot position, registry.pass = some (snapshot, position) →
      position.planned = true → snapshot.keepsActuator zone = true)
    (after : ∀ snapshot position, registry'.pass = some (snapshot, position) →
      position.planned = true → snapshot.keepsActuator zone = true) :
    registry'.KeptFor zone controller := by
  cases label with
  | begin snapshot =>
    obtain ⟨-, same⟩ := Option.ite_none_right_eq_some.mp stepped
    obtain rfl := Option.some.inj same
    exact kept.of_leaves rfl (leavesOwners_refl _)
  | go current =>
    simp only [RuntimeRegistry.step] at stepped
    split at stepped
    · cases stepped
    · rename_i snapshot position at'
      split at stepped
      · cases stepped
      · exact kept.advance aligned unbound at' (before snapshot position at') stepped
  | plan env saved =>
    simp only [RuntimeRegistry.step] at stepped
    split at stepped
    · rename_i snapshot at'
      obtain rfl := Option.some.inj stepped
      split at after
      · rename_i plan data planned written
        have stored := kept.planned (fresh env saved snapshot rfl at') planned
          (ok_of_saved written) (after snapshot _ rfl rfl)
        exact stored.of_leaves rfl (leavesOwners_refl _)
      · exact kept.of_leaves rfl (leavesOwners_refl _)
    · cases stepped
  | refresh entities assessments saved =>
    simp only [RuntimeRegistry.step] at stepped
    split at stepped
    · obtain rfl := Option.some.inj stepped
      split
      · rename_i data written
        exact kept.of_leaves rfl (leavesOwners_of_refresh (ok_of_saved written))
      · exact kept.of_leaves rfl (leavesOwners_refl _)
    · cases stepped
  | raise =>
    obtain ⟨pass, -, rfl⟩ := Option.map_eq_some_iff.mp stepped
    exact kept.of_leaves rfl (leavesOwners_refl _)
  | stored write =>
    obtain ⟨data, written, rfl⟩ := Option.map_eq_some_iff.mp stepped
    exact kept.of_leaves rfl (leavesOwners_of_keepsOwners (keepsOwners_of_write written))
  | quiesce | renamed | stop =>
    obtain rfl := Option.some.inj stepped
    exact kept.of_leaves rfl (leavesOwners_refl _)
  | unload =>
    obtain ⟨-, same⟩ := Option.ite_none_right_eq_some.mp stepped
    obtain rfl := Option.some.inj same
    exact kept.of_leaves rfl (leavesOwners_refl _)
  | detachNext =>
    simp [RuntimeRegistry.step, loaded] at stepped

/-- A pass that went through keeps a controller for every zone that its snapshot has. -/
theorem exists_keptFor {other : ImmutableZoneSnapshot} (aligned : registry.Aligned)
    (applied : registry.applied = some snapshot) (keeps : KeepsZone snapshot zone other) :
    ∃ controller, registry.KeptFor zone controller := by
  obtain ⟨-, served⟩ := aligned.applied snapshot applied
  obtain none' | bound := served.bound other keeps.member
  · cases none'
  · obtain ⟨binding, found⟩ := Option.isSome_iff_exists.mp bound
    obtain ⟨zone', member, same, record, seen, serves⟩ := served.served _ binding found
    obtain rfl := ImmutableEntrySnapshot.zone_unique keeps.member member same
    refine ⟨binding.controller, binding, record, keeps.subentryId ▸ found, rfl, ?_,
      serves.owns.owner.trans (congrArg some keeps.subentryId), ?_⟩
    · rw [serves.safetyRecordId]
      exact serves.owns.found
    · rw [← keeps.same]
      exact sameActuator_of_durable serves.owns.owner serves.owns.identity

end RuntimeRegistry

end MoistureLoop
