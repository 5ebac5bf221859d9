import MoistureLoop.Runtime.OneListener
import MoistureLoop.Runtime.ZoneOwners

/-! # What a pass has applied

Every turn of a pass brings a binding in line with the owner of its zone or leaves it so, and
the tasks between the turns change neither, so that a pass that went through leaves every zone
of its snapshot a binding and a controller that agree with the record that owns the zone. -/

namespace MoistureLoop

namespace RuntimeRegistry

variable {registry registry' : RuntimeRegistry} {snapshot : ImmutableEntrySnapshot}
  {subentryId safetyRecordId : String} {current : Bool}

/-! ## Moves of the pass -/

theorem leaves_pass (pass : Option (ImmutableEntrySnapshot × PassPosition)) :
    registry.Leaves { registry with pass := pass } :=
  ⟨rfl, leavesOwners_refl _, fun _ seen known => ⟨seen, known, rfl, rfl, rfl, rfl, rfl⟩⟩

/-- A pass is under way. -/
def Working (registry : RuntimeRegistry) : Prop :=
  registry.applied = none ∧ registry.unloading = none

theorem Named.at' {position : PassPosition} (named : registry.Named)
    (working : registry.Working) (aligned : registry.PositionAligned snapshot position) :
    (registry.at' snapshot position).Aligned where
  named := (leaves_pass _).named named fun _ _ found => found
  position := by
    intro snapshot' position' moved
    obtain ⟨rfl, rfl⟩ := Prod.mk.inj (Option.some.inj moved)
    exact (leaves_pass _).positionAligned aligned
  applied := by
    intro snapshot' applied
    have unapplied := working.1
    rw [show registry.applied = some snapshot' from applied] at unapplied
    cases unapplied
  unloading := by
    intro rest unloading
    have loaded := working.2
    rw [show registry.unloading = some rest from unloading] at loaded
    cases loaded

theorem Named.leave (named : registry.Named) (working : registry.Working) :
    registry.leave.Aligned where
  named := (leaves_pass _).named named fun _ _ found => found
  position := by
    intro snapshot position moved
    cases moved
  applied := by
    intro snapshot applied
    have unapplied := working.1
    rw [show registry.applied = some snapshot from applied] at unapplied
    cases unapplied
  unloading := by
    intro rest unloading
    have loaded := working.2
    rw [show registry.unloading = some rest from unloading] at loaded
    cases loaded

/-! ## Names of the controllers -/

namespace Named

variable (named : registry.Named)

include named

/-- The controllers keep their zones and their records. -/
theorem modify {controller : Nat} {change : RuntimeController → RuntimeController}
    (changes : ∀ seen, (change seen).zoneId = seen.zoneId ∧
      (change seen).safetyRecordId = seen.safetyRecordId) :
    (registry.modify controller change).Named := by
  have kept : ∀ (other : Nat) (seen : RuntimeController),
      registry.controllers[other]? = some seen →
      ∃ seen', (registry.modify controller change).controllers[other]? = some seen' ∧
        seen'.zoneId = seen.zoneId ∧ seen'.safetyRecordId = seen.safetyRecordId := by
    intro other seen known
    simp only [RuntimeRegistry.modify, List.getElem?_modify, known]
    by_cases here : controller = other
    · exact ⟨change seen, by simp [here], changes seen⟩
    · exact ⟨seen, by simp [here], rfl, rfl⟩
  constructor
  · intro subentryId binding found
    obtain ⟨seen, known, zone, key⟩ := named.bound subentryId binding found
    obtain ⟨seen', known', zone', key'⟩ := kept _ seen known
    exact ⟨seen', known', zone'.trans zone, key'.trans key⟩
  · intro own other found
    obtain ⟨seen, known, key⟩ := named.retained own other found
    obtain ⟨seen', known', -, key'⟩ := kept _ seen known
    exact ⟨seen', known', key'.trans key⟩

theorem unbind : (registry.unbind subentryId).Named where
  bound := by
    intro other binding found
    by_cases same : other = subentryId
    · subst same
      rw [show (registry.unbind other).bindings.get? other = none from Dict.get?_erase_self ..]
        at found
      cases found
    · exact named.bound other binding ((Dict.get?_erase_of_ne _ same).symm.trans found)
  retained := named.retained

theorem bind' {binding : RuntimeControllerBinding Nat} {seen : RuntimeController}
    (known : registry.controllers[binding.controller]? = some seen)
    (zone : seen.zoneId = subentryId) (key : seen.safetyRecordId = binding.safetyRecordId) :
    (registry.bind' subentryId binding).Named where
  bound := by
    intro other binding' found
    by_cases same : other = subentryId
    · subst same
      obtain rfl := Option.some.inj
        (found.symm.trans (Dict.get?_set_self registry.bindings other binding))
      exact ⟨seen, known, zone, key⟩
    · exact named.bound other binding' ((Dict.get?_set_of_ne _ _ same).symm.trans found)
  retained := named.retained

theorem retain {controller : Nat} {seen : RuntimeController}
    (known : registry.controllers[controller]? = some seen)
    (key : seen.safetyRecordId = safetyRecordId) :
    (registry.retain safetyRecordId controller).Named where
  bound := named.bound
  retained := by
    intro own other found
    by_cases same : own = safetyRecordId
    · subst same
      obtain rfl := Option.some.inj
        (found.symm.trans (Dict.get?_set_self registry.retained own controller))
      exact ⟨seen, known, key⟩
    · exact named.retained own other ((Dict.get?_set_of_ne _ _ same).symm.trans found)

theorem release : (registry.release safetyRecordId).Named where
  bound := named.bound
  retained := by
    intro own other found
    by_cases same : own = safetyRecordId
    · subst same
      rw [show (registry.release own).retained.get? own = none from Dict.get?_erase_self ..]
        at found
      cases found
    · exact named.retained own other ((Dict.get?_erase_of_ne _ same).symm.trans found)

end Named

/-! ## Turns of the pass -/

theorem quiesceChanged_named (named : registry.Named) :
    (registry.quiesceChanged snapshot subentryId).Named := by
  unfold quiesceChanged
  split
  · exact named
  · rename_i binding found
    split
    · exact named
    · obtain ⟨seen, known, zone, key⟩ := named.bound _ binding found
      have bound : (registry.bind' subentryId { binding with quiescing := true }).Named :=
        named.bind' known zone key
      exact bound.modify fun _ => ⟨rfl, rfl⟩

theorem make_aligned {zoneId : String} {config : ZoneConfig} {after : AfterStart}
    (named : registry.Named) (working : registry.Working)
    (aligned : ∀ canonical, registry.store.safetyRecords.get? safetyRecordId = some canonical →
      ({ registry with controllers :=
        registry.controllers ++ [RuntimeController.create zoneId config canonical] }).AfterAligned
          snapshot registry.controllers.length after) :
    (registry.make snapshot zoneId safetyRecordId config after).Aligned := by
  unfold make
  split
  · exact named.leave working
  · rename_i canonical found
    have appended := (leaves_append
      (RuntimeController.create zoneId config canonical)).named named fun _ _ found => found
    exact appended.at' working (aligned canonical found)

/-- Whether a binding serves its zone is read from the store and from the controllers. -/
theorem Served.of_maps {binding : RuntimeControllerBinding Nat}
    (served : registry.Served snapshot subentryId binding)
    (store : registry'.store = registry.store)
    (controllers : registry'.controllers = registry.controllers) :
    registry'.Served snapshot subentryId binding := by
  refine served.of_owner ?_ fun seen known _ _ => ?_
  · rw [store]
    exact leavesOwners_refl _
  · rw [controllers]
    exact ⟨seen, known, fun _ _ _ _ _ shows => shows⟩

theorem Served.modify {controller : Nat} {change : RuntimeController → RuntimeController}
    {binding : RuntimeControllerBinding Nat} {seen : RuntimeController}
    (served : registry.Served snapshot subentryId binding)
    (known : registry.controllers[controller]? = some seen) (other : seen.zoneId ≠ subentryId) :
    (registry.modify controller change).Served snapshot subentryId binding := by
  refine served.of_owner (leavesOwners_refl _) fun own known' zone _ => ?_
  have differs : controller ≠ binding.controller := by
    rintro rfl
    obtain rfl := Option.some.inj (known.symm.trans known')
    exact other zone
  refine ⟨own, ?_, fun _ _ _ _ _ shows => shows⟩
  simp only [RuntimeRegistry.modify, List.getElem?_modify, known']
  simp [differs]

/-- A retained controller that is shown its record serves the zone it served. -/
theorem AlignedBut.updateRuntimeOwnership {controller : Nat} {record : SafetyRecord}
    {rest : List ImmutableZoneSnapshot} (aligned : registry.AlignedBut snapshot rest)
    (named : registry.Named) (retained : registry.retained.get? safetyRecordId = some controller)
    (found : registry.store.safetyRecords.get? safetyRecordId = some record) :
    (registry.modify controller (·.updateRuntimeOwnership record)).AlignedBut snapshot rest where
  owned := aligned.owned
  within := aligned.within
  bound := aligned.bound
  served := by
    intro subentryId binding bound
    refine (aligned.served subentryId binding bound).of_owner (leavesOwners_refl _)
      fun own known zone key => ?_
    simp only [RuntimeRegistry.modify, List.getElem?_modify, known]
    by_cases here : controller = binding.controller
    · refine ⟨own.updateRuntimeOwnership record, by simp [here],
        fun zone owner _ owns same shows => ?_⟩
      -- The retained controller is the bound one: its record owns the zone.
      obtain ⟨seen, known', own'⟩ := named.retained safetyRecordId controller retained
      rw [here, known] at known'
      obtain rfl := Option.some.inj known'
      have recorded := owns.found
      rw [same, ← key, own', found] at recorded
      obtain rfl := Option.some.inj recorded
      exact ⟨shows.zoneId, shows.safetyRecordId, rfl, owns.active, owns.applied⟩
    · exact ⟨own, by simp [here], fun _ _ _ _ _ shows => shows⟩

theorem served_of_keptRecord {binding : RuntimeControllerBinding Nat} {record : SafetyRecord}
    {shadow : AppliedConfigurationShadow} {seen : RuntimeController}
    (owned : ZonesOwnedBy snapshot registry.store.toStoreFields)
    (known : registry.controllers[binding.controller]? = some seen)
    (zoneId : seen.zoneId = subentryId) (key : seen.safetyRecordId = binding.safetyRecordId)
    (kept : registry.keptRecord snapshot subentryId binding = some (record, shadow)) :
    let refreshed : RuntimeControllerBinding Nat := { binding with
      lifecycle := .active
      appliedShadow := shadow
      zoneHistoryId := record.zoneHistoryId
      quiescing := false }
    ((registry.bind' subentryId refreshed).modify binding.controller
      (·.updateRuntimeOwnership record)).Served snapshot subentryId refreshed := by
  unfold keptRecord at kept
  split at kept
  · rename_i desired own configured found
    split at kept
    · rename_i applied carried
      obtain ⟨⟨active, owner, -⟩, same⟩ := Option.ite_none_right_eq_some.mp kept
      obtain ⟨rfl, rfl⟩ := Prod.mk.inj (Option.some.inj same)
      have member : desired ∈ snapshot.zones := List.mem_of_find?_eq_some configured
      have named : desired.subentryId = subentryId := by simpa using List.find?_some configured
      obtain ⟨record, owns⟩ := owned desired member
      obtain rfl := owns.eq_of_active found (named ▸ owner)
      have recordId : binding.safetyRecordId = own.safetyRecordId :=
        (registry.store.consistent.recordKey _ _ found).symm
      have planned : applied = desired.appliedShadow snapshot.entrySnapshotFingerprint
          snapshot.observedGeneration := Option.some.inj (carried.symm.trans owns.applied)
      refine ⟨desired, member, named, own, seen.updateRuntimeOwnership own, owns, recordId, rfl,
        rfl, rfl, planned, ?_, zoneId.trans named.symm, key.trans recordId, rfl, active, owns.applied⟩
      simp [RuntimeRegistry.bind', RuntimeRegistry.modify, known]
    · cases kept
  · cases kept

theorem dropChanged_aligned {rest : List String} (named : registry.Named)
    (working : registry.Working)
    (aligned : registry.ServedBut snapshot (subentryId :: rest)) :
    (registry.dropChanged snapshot subentryId rest current).Aligned := by
  -- The bindings that have had their turn serve their zones.
  have others : ∀ other binding, registry.bindings.get? other = some binding →
      other ≠ subentryId → other ∈ rest ∨ registry.Served snapshot other binding := by
    intro other binding found differs
    obtain member | served := aligned.served other binding found
    · obtain rfl | member := List.mem_cons.mp member
      · exact absurd rfl differs
      · exact .inl member
    · exact .inr served
  unfold dropChanged
  split
  · rename_i absent
    refine named.at' working ⟨aligned.owned, fun other binding found => ?_⟩
    refine others other binding found ?_
    rintro rfl
    rw [absent] at found
    cases found
  · rename_i binding found
    obtain ⟨seen, known, zoneId, key⟩ := named.bound _ binding found
    split
    · rename_i record shadow kept
      -- The zone keeps its record: the binding is refreshed in place.
      let refreshed : RuntimeControllerBinding Nat := { binding with
        lifecycle := .active
        appliedShadow := shadow
        zoneHistoryId := record.zoneHistoryId
        quiescing := false }
      have rebound : (registry.bind' subentryId refreshed).Named := named.bind' known zoneId key
      have updated : ((registry.bind' subentryId refreshed).modify binding.controller
          (·.updateRuntimeOwnership record)).Named := rebound.modify fun _ => ⟨rfl, rfl⟩
      refine updated.at' working ⟨aligned.owned, fun other binding' found' => ?_⟩
      by_cases same : other = subentryId
      · subst same
        obtain rfl := Option.some.inj
          (found'.symm.trans (Dict.get?_set_self registry.bindings other refreshed))
        exact .inr (served_of_keptRecord aligned.owned known zoneId key kept)
      · have found' := (Dict.get?_set_of_ne _ _ same).symm.trans found'
        refine (others other binding' found' same).imp_right fun served => ?_
        have served' : (registry.bind' subentryId refreshed).Served snapshot other binding' :=
          served.of_maps rfl rfl
        exact served'.modify known (zoneId ▸ Ne.symm same)
    · split
      · exact named.leave working
      · -- The record of the zone is another one now, and its binding is dropped.
        have unbound : ∀ other binding',
            (registry.unbind subentryId).bindings.get? other = some binding' →
            other ≠ subentryId ∧ registry.bindings.get? other = some binding' := by
          intro other binding' found'
          by_cases same : other = subentryId
          · subst same
            rw [show (registry.unbind other).bindings.get? other = none from
              Dict.get?_erase_self ..] at found'
            cases found'
          · exact ⟨same, (Dict.get?_erase_of_ne _ same).symm.trans found'⟩
        split
        · rename_i record pending
          -- Its old record may still flow, so the controller is retained.
          obtain ⟨stored, -⟩ := Option.filter_eq_some_iff.mp pending
          have own : record.safetyRecordId = binding.safetyRecordId :=
            registry.store.consistent.recordKey _ _ stored
          have changed : ((registry.unbind subentryId).modify binding.controller
              (·.updateRuntimeOwnership record)).Named :=
            named.unbind.modify fun _ => ⟨rfl, rfl⟩
          have seen' : ((registry.unbind subentryId).modify binding.controller
              (·.updateRuntimeOwnership record)).controllers[binding.controller]? =
                some (seen.updateRuntimeOwnership record) := by
            simp [RuntimeRegistry.unbind, RuntimeRegistry.modify, known]
          refine (changed.retain seen' (key.trans own.symm)).at' working
            ⟨aligned.owned, fun other binding' found' => ?_⟩
          obtain ⟨differs, found'⟩ := unbound other binding' found'
          refine (others other binding' found' differs).imp_right fun served => ?_
          have served' : (registry.unbind subentryId).Served snapshot other binding' :=
            served.of_maps rfl rfl
          exact (served'.modify known (zoneId ▸ Ne.symm differs)).of_maps rfl rfl
        · refine named.unbind.at' working ⟨aligned.owned, fun other binding' found' => ?_⟩
          obtain ⟨differs, found'⟩ := unbound other binding' found'
          exact (others other binding' found' differs).imp_right fun served =>
            served.of_maps rfl rfl

/-! ## New controllers -/

/-- Alignment is read from the bindings, the store and the controllers. -/
theorem AlignedBut.of_maps {rest : List ImmutableZoneSnapshot}
    (aligned : registry.AlignedBut snapshot rest) (store : registry'.store = registry.store)
    (bindings : registry'.bindings = registry.bindings)
    (controllers : registry'.controllers = registry.controllers) :
    registry'.AlignedBut snapshot rest where
  owned := by
    rw [store]
    exact aligned.owned
  within := aligned.within
  served := by
    intro subentryId binding found
    rw [bindings] at found
    exact (aligned.served subentryId binding found).of_maps store controllers
  bound := by
    rw [bindings]
    exact aligned.bound

theorem Chosen.of_store {zone : ImmutableZoneSnapshot} {record : SafetyRecord}
    (chosen : registry.Chosen snapshot zone record) (store : registry'.store = registry.store) :
    registry'.Chosen snapshot zone record where
  member := chosen.member
  active := chosen.active
  applied := chosen.applied
  current := by
    rw [store]
    exact chosen.current

theorem createMissing_aligned {zone : ImmutableZoneSnapshot} {rest : List ImmutableZoneSnapshot}
    (named : registry.Named) (working : registry.Working)
    (aligned : registry.AlignedBut snapshot (zone :: rest)) :
    (registry.createMissing snapshot zone rest).Aligned := by
  have member := aligned.within zone (List.mem_cons_self ..)
  unfold createMissing
  split
  · rename_i record active
    have listed : record ∈ registry.activeRecords zone.subentryId := by
      rw [active]
      exact List.mem_singleton.mpr rfl
    obtain ⟨stored, owner, -⟩ := mem_activeRecords listed
    obtain ⟨own, owns⟩ := aligned.owned zone member
    obtain rfl := owns.eq_of_active stored owner
    have chosen : registry.Chosen snapshot zone record :=
      ⟨member, owns.active, owns.applied, record, owns, rfl, rfl⟩
    split
    · rename_i bound
      refine named.at' working ⟨aligned.owned, ?_, aligned.served, fun other within => ?_⟩
      · exact fun other later => aligned.within other (List.mem_cons_of_mem _ later)
      · obtain waiting | bound' := aligned.bound other within
        · obtain rfl | later := List.mem_cons.mp waiting
          · exact .inr bound
          · exact .inl later
        · exact .inr bound'
    · split
      · have released : (registry.release record.safetyRecordId).Named := named.release
        exact released.at' working ⟨aligned.of_maps rfl rfl rfl, chosen.of_store rfl⟩
      · exact named.at' working ⟨aligned, chosen⟩
  · exact named.leave working

theorem createController_aligned {zone : ImmutableZoneSnapshot} {record : SafetyRecord}
    {rest : List ImmutableZoneSnapshot} (named : registry.Named)
    (working : registry.Working) (aligned : registry.AlignedBut snapshot (zone :: rest))
    (chosen : registry.Chosen snapshot zone record) :
    (registry.createController snapshot zone record rest).Aligned := by
  unfold createController
  split
  · rename_i shadow applied
    split
    · refine make_aligned named working fun canonical found => ?_
      obtain ⟨owner, owns, key, history⟩ := chosen.current
      have recorded := owns.found
      rw [key, found] at recorded
      obtain rfl := Option.some.inj recorded
      have leaves := @leaves_append registry
        (RuntimeController.create zone.subentryId zone.currentConfig canonical)
      exact ⟨leaves.alignedBut aligned, leaves.chosen chosen, applied, _,
        List.getElem?_concat_length, rfl, key, history, owns.active, owns.applied⟩
    · exact named.leave working
  · exact named.leave working

/-- A started controller serves its zone, or is retained. -/
theorem register_aligned {controller : Nat} {after : AfterStart} {started : RuntimeController}
    (named : registry.Named) (working : registry.Working)
    (known : registry.controllers[controller]? = some started)
    (aligned : registry.AfterAligned snapshot controller after) :
    (registry.register snapshot controller started.safetyRecordId after).Aligned := by
  cases after with
  | displaced rest => exact (named.retain known rfl).at' working trivial
  | retained bound rest =>
    exact (named.retain known rfl).at' working (AlignedBut.of_maps aligned rfl rfl rfl)
  | live zone record shadow rest =>
    obtain ⟨aligned, chosen, applied, seen, known', shows⟩ := aligned
    obtain rfl := Option.some.inj (known.symm.trans known')
    let binding : RuntimeControllerBinding Nat :=
      { safetyRecordId := record.safetyRecordId
        zoneHistoryId := record.zoneHistoryId
        lifecycle := record.runtimeLifecycle
        appliedShadow := shadow
        controller := controller
        quiescing := false }
    have bound : (registry.bind' zone.subentryId binding).Named :=
      named.bind' known shows.zoneId shows.safetyRecordId
    refine bound.at' working ⟨aligned.owned, ?_, fun other found held => ?_, ?_⟩
    · exact fun other later => aligned.within other (List.mem_cons_of_mem _ later)
    · by_cases same : other = zone.subentryId
      · subst same
        obtain rfl := Option.some.inj
          (held.symm.trans (Dict.get?_set_self registry.bindings zone.subentryId binding))
        obtain ⟨owner, owns, key, history⟩ := chosen.current
        exact ⟨zone, chosen.member, rfl, owner, started, owns, key.symm, history.symm,
          chosen.active, rfl, Option.some.inj (applied.symm.trans chosen.applied), known,
          shows.of_same ⟨rfl, rfl, rfl, rfl, rfl⟩ key history⟩
      · have held := (Dict.get?_set_of_ne _ _ same).symm.trans held
        exact (aligned.served other found held).of_maps rfl rfl
    · intro other within
      by_cases same : other.subentryId = zone.subentryId
      · refine .inr ?_
        rw [same]
        exact Option.isSome_iff_exists.mpr ⟨binding, Dict.get?_set_self ..⟩
      · obtain waiting | bound' := aligned.bound other within
        · obtain rfl | later := List.mem_cons.mp waiting
          · exact absurd rfl same
          · exact .inl later
        · refine .inr ?_
          rw [show (registry.bind' zone.subentryId binding).bindings.get? other.subentryId = _ from
            Dict.get?_set_of_ne _ _ same]
          exact bound'

/-! ## Controllers that go -/

theorem detached_aligned {controller : Nat} {after : AfterDetach} (named : registry.Named)
    (working : registry.Working)
    (aligned : registry.PositionAligned snapshot (.detaching controller after)) :
    ((registry.modify controller ({ · with quiescing := true, attached := false })).detached
      snapshot after).Aligned := by
  have leaves : registry.Leaves
      (registry.modify controller ({ · with quiescing := true, attached := false })) :=
    leaves_modify fun _ => ⟨rfl, rfl, rfl, rfl, rfl⟩
  have named' := leaves.named named fun _ _ found => found
  cases after with
  | dropped rest => exact named'.at' working (leaves.servedBut aligned)
  | replaced zone record rest =>
    exact named'.at' working ⟨leaves.alignedBut aligned.1, leaves.chosen aligned.2⟩
  | released own bound rest =>
    have released : ((registry.modify controller
      ({ · with quiescing := true, attached := false })).release own).Named := named'.release
    exact released.at' working ((leaves.alignedBut aligned).of_maps rfl rfl rfl)
  | retired own rest =>
    have released : ((registry.modify controller
      ({ · with quiescing := true, attached := false })).release own).Named := named'.release
    exact released.at' working ((leaves.alignedBut aligned).of_maps rfl rfl rfl)

theorem releaseBound_aligned {bound rest : List String} (named : registry.Named)
    (working : registry.Working) (aligned : registry.AlignedBut snapshot []) :
    (registry.releaseBound snapshot safetyRecordId bound rest).Aligned := by
  unfold releaseBound
  split
  · exact named.at' working aligned
  · rename_i controller retained
    split
    · exact named.at' working aligned
    · rename_i record found
      obtain ⟨found, -⟩ := Option.filter_eq_some_iff.mp found
      have updated : (registry.modify controller (·.updateRuntimeOwnership record)).Named :=
        named.modify fun _ => ⟨rfl, rfl⟩
      exact updated.at' working (aligned.updateRuntimeOwnership named retained found)

theorem observeRecord_aligned {record : SafetyRecord} {bound : List String}
    {rest : List SafetyRecord} (named : registry.Named) (working : registry.Working)
    (aligned : registry.AlignedBut snapshot []) :
    (registry.observeRecord snapshot record bound rest current).Aligned := by
  unfold observeRecord
  split
  · exact named.at' working aligned
  · split
    · exact named.leave working
    · exact named.at' working aligned
    · split
      · exact named.at' working aligned
      · split
        · exact named.leave working
        · exact make_aligned named working fun canonical _ =>
            (leaves_append _).alignedBut aligned

theorem retireSettled_aligned {rest : List String} (named : registry.Named)
    (working : registry.Working) (aligned : registry.AlignedBut snapshot []) :
    (registry.retireSettled snapshot safetyRecordId rest).Aligned := by
  unfold retireSettled
  split
  · exact named.at' working aligned
  · rename_i controller retained
    split
    · exact named.leave working
    · rename_i record found
      have updated : (registry.modify controller (·.updateRuntimeOwnership record)).Named :=
        named.modify fun _ => ⟨rfl, rfl⟩
      have aligned' := aligned.updateRuntimeOwnership named retained found
      simp only
      split
      · exact updated.at' working aligned'
      · exact updated.at' working aligned'

/-! ## Steps -/

theorem quiesceChanged_working (working : registry.Working) :
    (registry.quiesceChanged snapshot subentryId).Working := by
  unfold quiesceChanged
  split
  · exact working
  · split
    · exact working
    · exact ⟨working.1, working.2⟩

theorem Aligned.working (aligned : registry.Aligned)
    {pass : ImmutableEntrySnapshot × PassPosition} (at' : registry.pass = some pass) :
    registry.Working := by
  constructor
  · cases applied : registry.applied with
    | none => rfl
    | some other =>
      rw [(aligned.applied other applied).1] at at'
      cases at'
  · cases unloading : registry.unloading with
    | none => rfl
    | some rest =>
      rw [(aligned.unloading rest unloading).1] at at'
      cases at'

/-- The pass goes on, or it was superseded and ends. -/
theorem Named.through {position : PassPosition} {goesOn : Prop} [Decidable goesOn]
    (named : registry.Named) (working : registry.Working)
    (aligned : goesOn → registry.PositionAligned snapshot position) :
    (if goesOn then registry.at' snapshot position else registry.leave).Aligned := by
  split
  · rename_i going
    exact named.at' working (aligned going)
  · exact named.leave working

/-- With all bindings looked at, each that is left serves its zone. -/
theorem dropped_aligned (named : registry.Named) (working : registry.Working)
    (fixed : registry.PositionAligned snapshot (.dropping [])) :
    (registry.at' snapshot (.creating snapshot.zones)).Aligned := by
  refine named.at' working ⟨fixed.owned, fun _ within => within, ?_, fun _ => .inl⟩
  intro subentryId binding found
  obtain none' | served := fixed.served subentryId binding found
  · cases none'
  · exact served

theorem preparing_aligned {controller : Nat} {after : AfterStart} (named : registry.Named)
    (working : registry.Working)
    (fixed : registry.PositionAligned snapshot (.preparing controller after))
    (advanced : registry.advance snapshot current (.preparing controller after) =
      some registry') : registry'.Aligned := by
  simp only [advance] at advanced
  split at advanced
  · cases advanced
  · obtain rfl := Option.some.inj advanced
    split
    · have leaves : registry.Leaves (registry.modify controller ({ · with attached := true })) :=
        leaves_modify fun _ => ⟨rfl, rfl, rfl, rfl, rfl⟩
      have named' := leaves.named named fun _ _ found => found
      exact named'.at' working (leaves.afterAligned fixed)
    · exact named.leave working

theorem starting_aligned {controller : Nat} {after : AfterStart} (named : registry.Named)
    (working : registry.Working)
    (fixed : registry.PositionAligned snapshot (.starting controller after))
    (advanced : registry.advance snapshot current (.starting controller after) =
      some registry') : registry'.Aligned := by
  simp only [advance] at advanced
  split at advanced
  · cases advanced
  · rename_i started known
    obtain rfl := Option.some.inj advanced
    exact register_aligned named working known fixed

/-- The snapshot counts as applied only when the pass is still the latest. -/
theorem rereading_aligned (named : registry.Named) (working : registry.Working)
    (fixed : registry.PositionAligned snapshot .rereading) :
    ({ registry.leave with applied := if current then some snapshot else none } :
      RuntimeRegistry).Aligned := by
  refine ⟨⟨named.bound, named.retained⟩, ?_, ?_, ?_⟩
  · intro snapshot' position moved
    cases moved
  · intro snapshot' applied
    refine ⟨rfl, ?_⟩
    by_cases through : current = true
    · simp only [through, if_true, Option.some.injEq] at applied
      subst applied
      exact AlignedBut.of_maps fixed rfl rfl rfl
    · simp [through] at applied
  · intro rest unloading
    have loaded := working.2
    rw [show registry.unloading = some rest from unloading] at loaded
    cases loaded

/-- One turn of the pass keeps what it has applied. -/
theorem advance_aligned {position : PassPosition} (aligned : registry.Aligned)
    (at' : registry.pass = some (snapshot, position))
    (advanced : registry.advance snapshot current position = some registry') :
    registry'.Aligned := by
  have named := aligned.named
  have fixed := aligned.position snapshot position at'
  have working := aligned.working at'
  cases position with
  | preparing controller after => exact preparing_aligned named working fixed advanced
  | starting controller after => exact starting_aligned named working fixed advanced
  | planning | refreshing => cases advanced
  | detaching controller after =>
    obtain rfl := Option.some.inj advanced
    exact detached_aligned named working fixed
  | quiescing rest =>
    cases rest with
    | nil =>
      obtain rfl := Option.some.inj advanced
      exact named.through working fun _ => trivial
    | cons subentryId rest =>
      obtain rfl := Option.some.inj advanced
      have quieted : (registry.quiesceChanged snapshot subentryId).Named :=
        quiesceChanged_named named
      exact quieted.at' (quiesceChanged_working working) trivial
  | displacing rest =>
    cases rest with
    | nil =>
      obtain rfl := Option.some.inj advanced
      exact named.through working fun _ => trivial
    | cons history rest =>
      obtain rfl := Option.some.inj advanced
      split
      · exact named.at' working trivial
      · exact make_aligned named working fun _ _ => trivial
  -- Every binding is still to be compared with its zone.
  | publishing conflicts =>
    obtain rfl := Option.some.inj advanced
    refine named.through working fun calm => ⟨fixed calm.2, fun subentryId binding found => ?_⟩
    exact .inl (Dict.isSome_get?_iff.mp (by rw [found]; rfl))
  -- Binding by binding, then zone by zone.
  | dropping rest =>
    cases rest with
    | nil =>
      obtain rfl := Option.some.inj advanced
      exact dropped_aligned named working fixed
    | cons subentryId rest =>
      obtain rfl := Option.some.inj advanced
      exact dropChanged_aligned named working fixed
  | creating rest =>
    cases rest with
    | nil =>
      obtain rfl := Option.some.inj advanced
      exact named.through working fun _ => fixed
    | cons zone rest =>
      obtain rfl := Option.some.inj advanced
      exact createMissing_aligned named working fixed
  | making zone record rest =>
    obtain rfl := Option.some.inj advanced
    split
    · exact createController_aligned named working fixed.1 fixed.2
    · exact named.leave working
  -- What is retained serves no zone.
  | releasing bound rest =>
    cases rest with
    | nil =>
      obtain rfl := Option.some.inj advanced
      exact named.at' working fixed
    | cons safetyRecordId rest =>
      obtain rfl := Option.some.inj advanced
      exact releaseBound_aligned named working fixed
  | observing bound rest =>
    cases rest with
    | nil =>
      obtain rfl := Option.some.inj advanced
      exact named.at' working fixed
    | cons record rest =>
      obtain rfl := Option.some.inj advanced
      exact observeRecord_aligned named working fixed
  | retiring rest =>
    cases rest with
    | nil =>
      obtain rfl := Option.some.inj advanced
      exact named.through working fun _ => fixed
    | cons safetyRecordId rest =>
      obtain rfl := Option.some.inj advanced
      exact retireSettled_aligned named working fixed
  | rereading =>
    obtain rfl := Option.some.inj advanced
    exact rereading_aligned named working fixed

/-- The plans are made with fresh IDs. -/
def PlansFresh (registry : RuntimeRegistry) (label : RegistryLabel) (_ : RuntimeRegistry) : Prop :=
  ∀ env saved snapshot, label = .plan env saved → registry.pass = some (snapshot, .planning) →
    FreshIds env snapshot registry.store.toStoreFields

theorem ok_of_saved {result : Except PyError StoreData} {saved : Bool} {data : StoreData}
    (written : result.bind (saveAndVerify · saved) = .ok data) : result = .ok data := by
  obtain ⟨made, same, verified⟩ := Except.bind_eq_ok_iff.mp written
  unfold saveAndVerify at verified
  split at verified
  · rw [same, Except.ok.inj verified]
  · cases verified

/-- Between passes, with no snapshot applied, the map names are all there is to keep. -/
theorem Named.resting (named : registry.Named) (idle : registry.pass = none)
    (unapplied : registry.applied = none) : registry.Aligned where
  named := named
  position := by
    intro snapshot position moved
    rw [moved] at idle
    cases idle
  applied := by
    intro snapshot applied
    rw [applied] at unapplied
    cases unapplied
  unloading := fun rest _ => ⟨idle, unapplied⟩

/-- A new pass has applied nothing yet. -/
theorem begin_aligned (aligned : registry.Aligned)
    (stepped : registry.step (.begin snapshot) = some registry') : registry'.Aligned := by
  obtain ⟨⟨-, -, loaded⟩, same⟩ := Option.ite_none_right_eq_some.mp stepped
  obtain rfl := Option.some.inj same
  refine ⟨⟨aligned.named.bound, aligned.named.retained⟩, ?_, ?_, ?_⟩
  · intro snapshot' position moved
    obtain ⟨rfl, rfl⟩ := Prod.mk.inj (Option.some.inj moved)
    trivial
  · intro snapshot' applied
    cases applied
  · intro rest unloading
    rw [show registry.unloading = some rest from unloading] at loaded
    cases loaded

theorem plan_aligned {env : PlanEnv} {saved : Bool} (aligned : registry.Aligned)
    (stepped : registry.step (.plan env saved) = some registry')
    (fresh : PlansFresh registry (.plan env saved) registry') : registry'.Aligned := by
  simp only [step] at stepped
  split at stepped
  · rename_i snapshot at'
    obtain rfl := Option.some.inj stepped
    split
    · rename_i plan data planned written
      have named : ({ registry with store := data } : RuntimeRegistry).Named :=
        ⟨aligned.named.bound, aligned.named.retained⟩
      refine named.at' (aligned.working at') fun calm => ?_
      exact planned_zonesOwnedBy (fresh env saved snapshot rfl at') planned calm
        (ok_of_saved written)
    · exact aligned.named.leave (aligned.working at')
  · cases stepped

theorem detachNext_aligned (aligned : registry.Aligned)
    (stepped : registry.step .detachNext = some registry') : registry'.Aligned := by
  simp only [step] at stepped
  split at stepped
  · cases stepped
  · rename_i unloading
    obtain rfl := Option.some.inj stepped
    obtain ⟨idle, unapplied⟩ := aligned.unloading _ unloading
    -- The maps are cleared with the last controller.
    refine Named.resting ⟨?_, ?_⟩ idle unapplied
    · intro subentryId binding found
      cases found
    · intro own controller found
      cases found
  · rename_i controller rest unloading
    obtain rfl := Option.some.inj stepped
    obtain ⟨idle, unapplied⟩ := aligned.unloading _ unloading
    have leaves : registry.Leaves
        (registry.modify controller ({ · with quiescing := true, attached := false })) :=
      leaves_modify fun _ => ⟨rfl, rfl, rfl, rfl, rfl⟩
    have named := leaves.named aligned.named fun _ _ found => found
    exact Named.resting ⟨named.bound, named.retained⟩ idle unapplied

theorem step_aligned {label : RegistryLabel} (aligned : registry.Aligned)
    (stepped : registry.step label = some registry')
    (fresh : PlansFresh registry label registry') : registry'.Aligned := by
  cases label with
  | begin snapshot => exact begin_aligned aligned stepped
  | go current =>
    simp only [step] at stepped
    split at stepped
    · cases stepped
    · rename_i snapshot position at'
      split at stepped
      · cases stepped
      · exact advance_aligned aligned at' stepped
  | plan env saved => exact plan_aligned aligned stepped fresh
  | refresh entities assessments saved =>
    simp only [step] at stepped
    split at stepped
    · rename_i snapshot at'
      obtain rfl := Option.some.inj stepped
      split
      · rename_i data written
        have leaves : registry.Leaves { registry with store := data } :=
          leaves_stored (leavesOwners_of_refresh (ok_of_saved written))
        have fixed := aligned.position snapshot _ at'
        have named := leaves.named aligned.named fun _ _ found => found
        exact named.at' (aligned.working at') (leaves.alignedBut fixed)
      · exact aligned.named.leave (aligned.working at')
    · cases stepped
  | raise =>
    obtain ⟨pass, at', rfl⟩ := Option.map_eq_some_iff.mp stepped
    exact aligned.named.leave (aligned.working at')
  | stored write =>
    obtain ⟨data, written, rfl⟩ := Option.map_eq_some_iff.mp stepped
    exact (leaves_stored (leavesOwners_of_keepsOwners (keepsOwners_of_write written))).aligned
      aligned rfl rfl rfl rfl
  | quiesce controller =>
    obtain rfl := Option.some.inj stepped
    have leaves : registry.Leaves (registry.modify controller RuntimeController.beginQuiescing) :=
      leaves_modify fun _ => ⟨rfl, rfl, rfl, rfl, rfl⟩
    exact leaves.aligned aligned rfl rfl rfl rfl
  | renamed controller sensor actuator =>
    obtain rfl := Option.some.inj stepped
    have leaves : registry.Leaves (registry.modify controller fun seen =>
        { seen with
          config := { seen.config with moistureSensor := sensor, actuator := actuator } }) :=
      leaves_modify fun _ => ⟨rfl, rfl, rfl, rfl, rfl⟩
    exact leaves.aligned aligned rfl rfl rfl rfl
  | stop =>
    obtain rfl := Option.some.inj stepped
    have leaves : registry.Leaves { registry with stopping := true } :=
      ⟨rfl, leavesOwners_refl _, fun _ seen known => ⟨seen, known, rfl, rfl, rfl, rfl, rfl⟩⟩
    exact leaves.aligned aligned rfl rfl rfl rfl
  | unload =>
    obtain ⟨⟨-, idle, -⟩, same⟩ := Option.ite_none_right_eq_some.mp stepped
    obtain rfl := Option.some.inj same
    exact Named.resting ⟨aligned.named.bound, aligned.named.retained⟩
      (Option.isNone_iff_eq_none.mp idle) rfl
  | detachNext => exact detachNext_aligned aligned stepped

theorem aligned_fresh (store : StoreData) : Aligned { store := store } := by
  refine Named.resting ⟨?_, ?_⟩ rfl rfl
  · intro subentryId binding found
    cases found
  · intro own controller found
    cases found

end RuntimeRegistry

end MoistureLoop
