import MoistureLoop.Runtime.Hazards
import MoistureLoop.Runtime.Observers

/-! # Every pass keeps one listener

Each turn of a pass is one hand-over or none, and the tasks between the turns move no
controller.  A pass that raises while it starts or detaches a controller loses it, so that the
runs below are those in which none does. -/

namespace MoistureLoop

namespace RuntimeRegistry

variable {registry registry' : RuntimeRegistry} {snapshot : ImmutableEntrySnapshot}
  {subentryId safetyRecordId : String} {current : Bool}

theorem bound?_of_get? {binding : RuntimeControllerBinding Nat}
    (found : registry.bindings.get? subentryId = some binding) :
    registry.bound? subentryId = some (binding.safetyRecordId, binding.controller) := by
  simp [bound?, found]

theorem bound?_of_get?_none (absent : registry.bindings.get? subentryId = none) :
    registry.bound? subentryId = none := by
  simp [bound?, absent]

/-- A retained or bound controller gets a new owner only. -/
theorem same_updateRuntimeOwnership {controller : Nat} (record : SafetyRecord) :
    registry.Same (registry.modify controller (·.updateRuntimeOwnership record)) :=
  same_modify fun _ => ⟨rfl, rfl⟩

/-- A registered controller may be in hand as well. -/
theorem Kept.any (kept : registry.Kept none) (hand : Option Nat) : registry.Kept hand where
  boundOnce := kept.boundOnce
  apart := kept.apart
  listening := kept.listening
  registered own controller listens := by
    obtain held | none' := kept.registered own controller listens
    · exact .inl held
    · cases none'

theorem BindingsOwned.tail {rest : List String}
    (owned : registry.BindingsOwned (subentryId :: rest))
    (own : ∀ safetyRecordId controller,
      registry.bound? subentryId = some (safetyRecordId, controller) →
      registry.OwnedBy safetyRecordId subentryId) : registry.BindingsOwned rest := by
  intro other safetyRecordId controller bound outside
  by_cases same : other = subentryId
  · subst same
    exact own _ _ bound
  · exact owned other _ _ bound (by simp [same, outside])

/-! ## A new controller -/

/-- A pass that makes a controller for a free record has it in hand. -/
theorem make_sound {zoneId : String} {config : ZoneConfig} {after : AfterStart}
    (kept : registry.Kept none) (loaded : registry.unloading = none)
    (free : registry.Free safetyRecordId) (sound : registry.AfterSound safetyRecordId after) :
    (registry.make snapshot zoneId safetyRecordId config after).Sound := by
  unfold make
  split
  · exact kept.leave loaded
  · rename_i canonical found
    have key : canonical.safetyRecordId = safetyRecordId :=
      registry.store.consistent.recordKey _ _ found
    let created := RuntimeController.create zoneId config canonical
    obtain ⟨kept, listener⟩ := @Kept.create registry created kept rfl
    have maps : registry.SameMaps
        { registry with controllers := registry.controllers ++ [created] } :=
      ⟨fun _ => rfl, rfl, fun _ _ owned => owned⟩
    rw [← key] at free sound
    exact @Kept.at' { registry with controllers := registry.controllers ++ [created] } snapshot
      (.preparing registry.controllers.length after) kept loaded
      ⟨canonical.safetyRecordId, listener, maps.free free, maps.afterSound sound⟩

theorem free_of_unregistered
    (unbound : registry.bindings.values.any (fun binding =>
      decide (binding.safetyRecordId = safetyRecordId)) = false)
    (unretained : registry.retained.get? safetyRecordId = none) :
    registry.Free safetyRecordId := by
  rintro controller (⟨subentryId, bound⟩ | retained)
  · obtain ⟨binding, found, same⟩ := Option.map_eq_some_iff.mp bound
    have differs := List.any_eq_false.mp unbound binding
      (Dict.mem_values_iff_get?.mpr ⟨subentryId, found⟩)
    exact differs (decide_eq_true (Prod.mk.inj same).1)
  · rw [unretained] at retained
    cases retained

/-- A displaced session gets a controller when its record has none. -/
theorem displacedRecord_free {history : ZoneHistory} {record : SafetyRecord}
    {shadow : AppliedConfigurationShadow}
    (displaced : registry.displacedRecord snapshot history = some (record, shadow)) :
    registry.Free record.safetyRecordId := by
  unfold displacedRecord at displaced
  split at displaced
  · cases displaced
  · split at displaced
    · cases displaced
    · split at displaced
      · cases displaced
      · split at displaced
        · cases displaced
        · split at displaced
          · cases displaced
          · rename_i unbound
            split at displaced
            · cases displaced
            · rename_i unretained
              obtain ⟨-, same⟩ := Option.ite_none_right_eq_some.mp displaced
              obtain ⟨rfl, -⟩ := Prod.mk.inj (Option.some.inj same)
              exact free_of_unregistered (Bool.eq_false_iff.mpr unbound)
                (Option.not_isSome_iff_eq_none.mp unretained)

/-! ## Dropping -/

theorem keptRecord_ownedBy {binding : RuntimeControllerBinding Nat} {record : SafetyRecord}
    {shadow : AppliedConfigurationShadow}
    (kept : registry.keptRecord snapshot subentryId binding = some (record, shadow)) :
    registry.OwnedBy binding.safetyRecordId subentryId := by
  unfold keptRecord at kept
  split at kept
  · rename_i desired own _ found
    split at kept
    · obtain ⟨⟨-, owner, -⟩, same⟩ := Option.ite_none_right_eq_some.mp kept
      exact ⟨own, found, owner⟩
    · cases kept
  · cases kept

theorem dropChanged_sound {rest : List String} (kept : registry.Kept none)
    (loaded : registry.unloading = none) (owned : registry.BindingsOwned (subentryId :: rest)) :
    (registry.dropChanged snapshot subentryId rest current).Sound := by
  unfold dropChanged
  split
  · rename_i absent
    refine kept.at' loaded (owned.tail fun own controller bound => ?_)
    rw [bound?_of_get?_none absent] at bound
    cases bound
  · rename_i binding found
    have bound := bound?_of_get? found
    split
    · rename_i record shadow same
      let refreshed : RuntimeControllerBinding Nat := { binding with
        lifecycle := .active
        appliedShadow := shadow
        zoneHistoryId := record.zoneHistoryId
        quiescing := false }
      have rebound : registry.Same (registry.bind' subentryId refreshed) := same_bind' bound
      have changed := rebound.trans (@same_updateRuntimeOwnership
        (registry.bind' subentryId refreshed) binding.controller record)
      refine (changed.kept kept).at' loaded (changed.bindingsOwned (owned.tail ?_))
      intro own controller bound'
      rw [bound] at bound'
      obtain ⟨rfl, rfl⟩ := Prod.mk.inj (Option.some.inj bound')
      exact keptRecord_ownedBy same
    · split
      · exact kept.leave loaded
      · obtain ⟨inHand, free, listens⟩ := kept.unbind loaded bound
        -- Without the binding, the subentry asks for nothing.
        have remaining : (registry.unbind subentryId).BindingsOwned rest := by
          intro other own controller bound' outside
          rw [bound?_unbind] at bound'
          split at bound'
          · cases bound'
          · rename_i differs
            exact owned other own controller bound' (by simp [differs, outside])
        split
        · rename_i record pending
          obtain ⟨stored, -⟩ := Option.filter_eq_some_iff.mp pending
          have key : record.safetyRecordId = binding.safetyRecordId :=
            registry.store.consistent.recordKey _ _ stored
          have changed : (registry.unbind subentryId).Same
              ((registry.unbind subentryId).modify binding.controller
                (·.updateRuntimeOwnership record)) := same_updateRuntimeOwnership record
          rw [key]
          refine ((changed.kept inHand).retain ?_ (changed.free free)).at' loaded
            (changed.bindingsOwned remaining)
          rw [changed.listener]
          exact listens
        · exact inHand.at' loaded ⟨⟨_, listens, free⟩, remaining⟩

/-! ## Creating -/

theorem mem_activeRecords {record : SafetyRecord}
    (member : record ∈ registry.activeRecords subentryId) :
    registry.store.safetyRecords.get? record.safetyRecordId = some record ∧
      record.activeSubentryId = some subentryId ∧ record.runtimeLifecycle = .active := by
  obtain ⟨member, active⟩ := List.mem_filter.mp member
  simp only [Bool.and_eq_true, decide_eq_true_eq] at active
  obtain ⟨key, found⟩ := Dict.mem_values_iff_get?.mp member
  have own := registry.store.consistent.recordKey _ _ found
  exact ⟨by rw [own]; exact found, active⟩

theorem createMissing_sound {zone : ImmutableZoneSnapshot} {rest : List ImmutableZoneSnapshot}
    (kept : registry.Kept none) (loaded : registry.unloading = none)
    (owned : registry.BindingsOwned []) :
    (registry.createMissing snapshot zone rest).Sound := by
  unfold createMissing
  split
  · rename_i record active
    have listed : record ∈ registry.activeRecords zone.subentryId := by
      rw [active]
      exact List.mem_singleton.mpr rfl
    obtain ⟨stored, owner, -⟩ := mem_activeRecords listed
    have own : registry.OwnedBy record.safetyRecordId zone.subentryId := ⟨record, stored, owner⟩
    split
    · exact kept.at' loaded owned
    · rename_i unbound
      have unbound := bound?_of_get?_none (Option.not_isSome_iff_eq_none.mp unbound)
      split
      · rename_i controller retained
        obtain ⟨inHand, free, listens⟩ := kept.release loaded retained
        exact inHand.at' loaded ⟨listens, owned, own, free, unbound⟩
      · rename_i unretained
        refine kept.at' loaded ⟨owned, own, ?_, unbound⟩
        rintro controller (⟨other, bound⟩ | retained)
        -- The record has one subentry, and this one has no binding.
        · obtain ⟨record', stored', owner'⟩ := owned other _ _ bound List.not_mem_nil
          obtain rfl := Option.some.inj (stored.symm.trans stored')
          obtain rfl := Option.some.inj (owner.symm.trans owner')
          rw [unbound] at bound
          cases bound
        · rw [unretained] at retained
          cases retained
  · exact kept.leave loaded

theorem createController_sound {zone : ImmutableZoneSnapshot} {record : SafetyRecord}
    {rest : List ImmutableZoneSnapshot} (kept : registry.Kept none)
    (loaded : registry.unloading = none)
    (vacant : registry.Vacant zone.subentryId record.safetyRecordId) :
    (registry.createController snapshot zone record rest).Sound := by
  unfold createController
  split
  · split
    · exact make_sound kept loaded vacant.free ⟨rfl, vacant⟩
    · exact kept.leave loaded
  · exact kept.leave loaded

/-! ## The controller in hand -/

theorem register_sound {controller : Nat} {after : AfterStart}
    (kept : registry.Kept (some controller)) (loaded : registry.unloading = none)
    (listens : registry.listener? controller = some (safetyRecordId, true))
    (free : registry.Free safetyRecordId) (sound : registry.AfterSound safetyRecordId after) :
    (registry.register snapshot controller safetyRecordId after).Sound := by
  cases after with
  | displaced rest => exact (kept.retain listens free).at' loaded trivial
  | retained bound rest => exact (kept.retain listens free).at' loaded sound
  | live zone record shadow rest =>
    obtain ⟨rfl, vacant⟩ := sound
    let binding : RuntimeControllerBinding Nat :=
      { safetyRecordId := record.safetyRecordId
        zoneHistoryId := record.zoneHistoryId
        lifecycle := record.runtimeLifecycle
        appliedShadow := shadow
        controller := controller
        quiescing := false }
    have bound : (registry.bind' zone.subentryId binding).Kept none :=
      @Kept.bind' registry zone.subentryId binding kept listens free vacant.unbound
    refine bound.at' loaded fun other own acting found _ => ?_
    rw [bound?_bind'] at found
    split at found
    · rename_i here
      obtain ⟨rfl, rfl⟩ := Prod.mk.inj (Option.some.inj found)
      rw [here]
      exact vacant.record
    · exact vacant.owned other own acting found List.not_mem_nil

theorem detached_sound {controller : Nat} {after : AfterDetach}
    (kept : registry.Kept (some controller)) (loaded : registry.unloading = none)
    (sound : registry.PositionSound (.detaching controller after)) :
    ((registry.modify controller ({ · with quiescing := true, attached := false })).detached
      snapshot after).Sound := by
  have maps : registry.SameMaps
      (registry.modify controller ({ · with quiescing := true, attached := false })) :=
    ⟨fun _ => rfl, rfl, fun _ _ owned => owned⟩
  -- A retained controller leaves the map as it is detached.
  have let_go : ∀ own, registry.retained.get? own = some controller →
      ((registry.modify controller
        ({ · with quiescing := true, attached := false })).release own).Kept none := by
    intro own retained
    have settled : registry.Kept none := by
      refine ⟨kept.boundOnce, kept.apart, kept.listening, fun own' acting listens => .inl ?_⟩
      obtain held | mine := kept.registered own' acting listens
      · exact held
      · obtain rfl := Option.some.inj mine
        have own := kept.listening loaded own controller (.inr retained)
        obtain rfl := (Prod.mk.inj (Option.some.inj (own.symm.trans listens))).1
        exact .inr retained
    obtain ⟨inHand, free, listens⟩ := settled.release loaded retained
    exact inHand.detach listens free
  cases after with
  | dropped rest =>
    obtain ⟨⟨own, listens, free⟩, owned⟩ := sound
    exact (kept.detach listens free).at' loaded (maps.bindingsOwned owned)
  | replaced zone record rest =>
    obtain ⟨listens, vacant⟩ := sound
    exact (kept.detach listens vacant.free).at' loaded (maps.vacant vacant)
  | released own bound rest => exact (let_go own sound.1).at' loaded (maps.covers sound.2)
  | retired own rest => exact (let_go own sound).at' loaded trivial

/-! ## Retained controllers -/

theorem releaseBound_sound {bound rest : List String} (kept : registry.Kept none)
    (loaded : registry.unloading = none) (covers : registry.Covers bound) :
    (registry.releaseBound snapshot safetyRecordId bound rest).Sound := by
  unfold releaseBound
  split
  · exact kept.at' loaded covers
  · rename_i controller retained
    split
    · exact (kept.any (some controller)).at' loaded ⟨retained, covers⟩
    · rename_i record _
      have changed : registry.Same
          (registry.modify controller (·.updateRuntimeOwnership record)) :=
        same_updateRuntimeOwnership record
      exact (changed.kept kept).at' loaded (changed.covers covers)

theorem observeRecord_sound {record : SafetyRecord} {bound : List String}
    {rest : List SafetyRecord} (kept : registry.Kept none) (loaded : registry.unloading = none)
    (covers : registry.Covers bound) :
    (registry.observeRecord snapshot record bound rest current).Sound := by
  unfold observeRecord
  split
  · exact kept.at' loaded covers
  · rename_i outside
    split
    · exact kept.leave loaded
    · exact kept.at' loaded covers
    · split
      · exact kept.at' loaded covers
      · rename_i observed
        split
        · exact kept.leave loaded
        · refine make_sound kept loaded ?_ covers
          push Not at observed
          rintro controller (⟨subentryId, found⟩ | retained)
          · exact outside (covers subentryId _ _ found)
          · have unretained : registry.retained.get? record.safetyRecordId = none := by
              simpa using observed.2.1
            rw [unretained] at retained
            cases retained

theorem retireSettled_sound {rest : List String} (kept : registry.Kept none)
    (loaded : registry.unloading = none) :
    (registry.retireSettled snapshot safetyRecordId rest).Sound := by
  unfold retireSettled
  split
  · exact kept.at' loaded trivial
  · rename_i controller retained
    split
    · exact kept.leave loaded
    · rename_i record _
      have changed : registry.Same
          (registry.modify controller (·.updateRuntimeOwnership record)) :=
        same_updateRuntimeOwnership record
      have settled := changed.kept kept
      simp only
      split
      · exact (settled.any (some controller)).at' loaded retained
      · exact settled.at' loaded trivial

/-! ## Steps -/

theorem quiesceChanged_same : registry.Same (registry.quiesceChanged snapshot subentryId) := by
  have unchanged : registry.Same registry :=
    ⟨⟨fun _ => rfl, rfl, fun _ _ owned => owned⟩, fun _ => rfl, rfl⟩
  unfold quiesceChanged
  split
  · exact unchanged
  · rename_i binding found
    split
    · exact unchanged
    · let quieted : RuntimeControllerBinding Nat := { binding with quiescing := true }
      have bound := bound?_of_get? found
      have rebound : registry.Same (registry.bind' subentryId quieted) := same_bind' bound
      exact rebound.trans (same_modify fun _ => ⟨rfl, rfl⟩)

/-- The pass goes on, or it was superseded and ends. -/
theorem Kept.through {position : PassPosition} {goesOn : Prop} [Decidable goesOn]
    (kept : registry.Kept none) (loaded : registry.unloading = none)
    (sound : goesOn → (registry.at' snapshot position).Sound) :
    (if goesOn then registry.at' snapshot position else registry.leave).Sound := by
  split
  · rename_i going
    exact sound going
  · exact kept.leave loaded

/-- The bindings are looked at one by one, and all of them are to be looked at. -/
theorem bindingsOwned_keys : registry.BindingsOwned registry.bindings.keys := by
  intro subentryId own controller bound outside
  obtain ⟨binding, found, -⟩ := Option.map_eq_some_iff.mp bound
  exact absurd (Dict.isSome_get?_iff.mp (by rw [found]; rfl)) outside

theorem covers_bindings :
    registry.Covers (registry.bindings.values.map RuntimeControllerBinding.safetyRecordId) := by
  intro subentryId own controller bound
  obtain ⟨binding, found, same⟩ := Option.map_eq_some_iff.mp bound
  exact List.mem_map.mpr
    ⟨binding, Dict.mem_values_iff_get?.mpr ⟨_, found⟩, (Prod.mk.inj same).1⟩

/-- The controller in hand is attached; one that cannot be is dropped. -/
theorem preparing_sound {controller : Nat} {after : AfterStart}
    (kept : registry.Kept (some controller)) (loaded : registry.unloading = none)
    (fixed : registry.PositionSound (.preparing controller after))
    (advanced : registry.advance snapshot current (.preparing controller after) =
      some registry') : registry'.Sound := by
  obtain ⟨own, idle, free, prepared⟩ := fixed
  simp only [advance] at advanced
  split at advanced
  · cases advanced
  · obtain rfl := Option.some.inj advanced
    split
    · obtain ⟨attached, listens⟩ := kept.attach idle
      have maps : registry.SameMaps (registry.modify controller ({ · with attached := true })) :=
        ⟨fun _ => rfl, rfl, fun _ _ owned => owned⟩
      exact attached.at' loaded ⟨own, listens, maps.free free, maps.afterSound prepared⟩
    · -- It does not listen yet, so that nothing that listens is lost with it.
      have unheld : registry.Kept none := by
        refine ⟨kept.boundOnce, kept.apart, kept.listening, fun own' acting listens => ?_⟩
        refine (kept.registered own' acting listens).imp_right fun mine => ?_
        obtain rfl := Option.some.inj mine
        rw [idle] at listens
        cases (Prod.mk.inj (Option.some.inj listens)).2
      exact unheld.leave loaded

/-- The controller in hand listens and comes under its record's name. -/
theorem starting_sound {controller : Nat} {after : AfterStart}
    (kept : registry.Kept (some controller)) (loaded : registry.unloading = none)
    (fixed : registry.PositionSound (.starting controller after))
    (advanced : registry.advance snapshot current (.starting controller after) =
      some registry') : registry'.Sound := by
  obtain ⟨own, listens, free, prepared⟩ := fixed
  simp only [advance] at advanced
  split at advanced
  · cases advanced
  · rename_i started found
    obtain rfl := Option.some.inj advanced
    have key : started.safetyRecordId = own := by
      simp only [listener?, found, Option.map_some] at listens
      exact (Prod.mk.inj (Option.some.inj listens)).1
    rw [key]
    exact register_sound kept loaded listens free prepared

/-- The snapshot is applied, or left to the pass that supersedes this one. -/
theorem rereading_sound (kept : registry.Kept none) (loaded : registry.unloading = none)
    (applied : Option ImmutableEntrySnapshot) :
    ({ registry.leave with applied := applied } : RuntimeRegistry).Sound := by
  have left : registry.leave.Sound := kept.leave loaded
  have same : registry.leave.Same { registry.leave with applied := applied } :=
    ⟨⟨fun _ => rfl, rfl, fun _ _ owned => owned⟩, fun _ => rfl, rfl⟩
  exact same.sound rfl left

/-- One turn of the pass keeps the invariant. -/
theorem advance_sound {position : PassPosition} (sound : registry.Sound)
    (at' : registry.pass = some (snapshot, position))
    (advanced : registry.advance snapshot current position = some registry') :
    registry'.Sound := by
  have loaded := sound.loaded at'
  have fixed := sound.position snapshot position at'
  have kept : registry.Kept position.hand := by
    have kept := sound.kept
    rwa [show registry.inHand = position.hand by simp [inHand, at']] at kept
  cases position with
  | preparing controller after => exact preparing_sound kept loaded fixed advanced
  | starting controller after => exact starting_sound kept loaded fixed advanced
  | planning | refreshing => cases advanced
  | detaching controller after =>
    obtain rfl := Option.some.inj advanced
    exact detached_sound kept loaded fixed
  -- Nothing is in hand at the other positions.
  | quiescing rest =>
    replace kept : registry.Kept none := kept
    cases rest with
    | nil =>
      obtain rfl := Option.some.inj advanced
      exact kept.through loaded fun _ => kept.at' loaded trivial
    | cons subentryId rest =>
      obtain rfl := Option.some.inj advanced
      have same : registry.Same (registry.quiesceChanged snapshot subentryId) := quiesceChanged_same
      exact (same.kept kept).at' (same.unloading.trans loaded) trivial
  | displacing rest =>
    replace kept : registry.Kept none := kept
    cases rest with
    | nil =>
      obtain rfl := Option.some.inj advanced
      exact kept.through loaded fun _ => kept.at' loaded trivial
    | cons history rest =>
      obtain rfl := Option.some.inj advanced
      split
      · exact kept.at' loaded trivial
      · rename_i record shadow displaced
        exact make_sound kept loaded (displacedRecord_free displaced) trivial
  | publishing conflicts =>
    replace kept : registry.Kept none := kept
    obtain rfl := Option.some.inj advanced
    exact kept.through loaded fun _ => kept.at' loaded bindingsOwned_keys
  | dropping rest =>
    replace kept : registry.Kept none := kept
    cases rest with
    | nil =>
      obtain rfl := Option.some.inj advanced
      exact kept.at' loaded fixed
    | cons subentryId rest =>
      obtain rfl := Option.some.inj advanced
      exact dropChanged_sound kept loaded fixed
  | creating rest =>
    replace kept : registry.Kept none := kept
    cases rest with
    | nil =>
      obtain rfl := Option.some.inj advanced
      exact kept.through loaded fun _ => kept.at' loaded covers_bindings
    | cons zone rest =>
      obtain rfl := Option.some.inj advanced
      exact createMissing_sound kept loaded fixed
  | making zone record rest =>
    replace kept : registry.Kept none := kept
    obtain rfl := Option.some.inj advanced
    split
    · exact createController_sound kept loaded fixed
    · exact kept.leave loaded
  | releasing bound rest =>
    replace kept : registry.Kept none := kept
    cases rest with
    | nil =>
      obtain rfl := Option.some.inj advanced
      exact kept.at' loaded fixed
    | cons safetyRecordId rest =>
      obtain rfl := Option.some.inj advanced
      exact releaseBound_sound kept loaded fixed
  | observing bound rest =>
    replace kept : registry.Kept none := kept
    cases rest with
    | nil =>
      obtain rfl := Option.some.inj advanced
      exact kept.at' loaded trivial
    | cons record rest =>
      obtain rfl := Option.some.inj advanced
      exact observeRecord_sound kept loaded fixed
  | retiring rest =>
    replace kept : registry.Kept none := kept
    cases rest with
    | nil =>
      obtain rfl := Option.some.inj advanced
      exact kept.through loaded fun _ => kept.at' loaded trivial
    | cons safetyRecordId rest =>
      obtain rfl := Option.some.inj advanced
      exact retireSettled_sound kept loaded
  | rereading =>
    replace kept : registry.Kept none := kept
    obtain rfl := Option.some.inj advanced
    exact rereading_sound kept loaded _

theorem same_stored {data : StoreData}
    (keeps : keepsOwners registry.store.toStoreFields data.toStoreFields = true) :
    registry.Same { registry with store := data } := by
  refine ⟨⟨fun _ => rfl, rfl, fun own subentryId => ?_⟩, fun _ => rfl, rfl⟩
  rintro ⟨record, found, owner⟩
  have kept := List.all_eq_true.mp keeps (own, record) (Dict.get?_eq_some_iff.mp found)
  obtain ⟨after, found', same⟩ := (Option.any_eq_true _ _).mp kept
  exact ⟨after, found', (sameOwner_iff.mp same).activeSubentryId.trans owner⟩

/-- What `async_unload` has to detach are all that listen. -/
theorem Sound.unload (sound : registry.Sound) (idle : registry.pass = none) :
    ({ registry with
      applied := none
      unloading := some (registry.bindings.values.map RuntimeControllerBinding.controller ++
        registry.retained.values) }).Sound := by
  have kept : registry.Kept none := by
    have kept := sound.kept
    rwa [show registry.inHand = none by simp [inHand, idle]] at kept
  have unhanded : ({ registry with
      applied := none
      unloading := some (registry.bindings.values.map RuntimeControllerBinding.controller ++
        registry.retained.values) } : RuntimeRegistry).inHand = none := by
    simp [inHand, idle]
  refine ⟨?_, ?_, ?_⟩
  · rw [unhanded]
    exact ⟨kept.boundOnce, kept.apart, (fun loaded => by cases loaded), kept.registered⟩
  · intro snapshot position moved
    rw [show registry.pass = some (snapshot, position) from moved] at idle
    cases idle
  · intro rest listed
    obtain rfl := Option.some.inj listed
    refine ⟨idle, fun own controller listens => ?_⟩
    obtain held | none' := kept.registered own controller listens
    · obtain ⟨subentryId, bound⟩ | retained := held
      · obtain ⟨binding, found, same⟩ := Option.map_eq_some_iff.mp bound
        refine List.mem_append_left _ (List.mem_map.mpr ⟨binding, ?_, (Prod.mk.inj same).2⟩)
        exact Dict.mem_values_iff_get?.mpr ⟨subentryId, found⟩
      · exact List.mem_append_right _ (Dict.mem_values_iff_get?.mpr ⟨own, retained⟩)
    · cases none'

theorem Sound.detachNext {controller : Nat} {rest : List Nat} (sound : registry.Sound)
    (unloading : registry.unloading = some (controller :: rest)) :
    ({ registry.modify controller ({ · with quiescing := true, attached := false }) with
      unloading := some rest }).Sound := by
  obtain ⟨idle, listed⟩ := sound.unloading _ unloading
  have kept : registry.Kept none := by
    have kept := sound.kept
    rwa [show registry.inHand = none by simp [inHand, idle]] at kept
  let detached : RuntimeRegistry :=
    { registry.modify controller ({ · with quiescing := true, attached := false }) with
      unloading := some rest }
  have unhanded : detached.inHand = none := by
    show registry.pass.bind _ = none
    rw [idle]
    rfl
  have fewer : ∀ own acting, detached.listener? acting = some (own, true) →
      acting ≠ controller ∧ registry.listener? acting = some (own, true) := by
    intro own acting listens
    have heard := @listener?_modify registry controller
      ({ · with quiescing := true, attached := false }) (fun _ => false) (fun _ => ⟨rfl, rfl⟩)
      acting
    rw [show detached.listener? acting = _ from heard] at listens
    split at listens
    · obtain ⟨listener, -, same⟩ := Option.map_eq_some_iff.mp listens
      cases (Prod.mk.inj same).2
    · rename_i differs
      exact ⟨Ne.symm differs, listens⟩
  show detached.Sound
  refine ⟨?_, ?_, ?_⟩
  · rw [unhanded]
    exact ⟨kept.boundOnce, kept.apart, (fun loaded => by cases loaded),
      fun own acting listens => kept.registered own acting (fewer own acting listens).2⟩
  · intro snapshot position moved
    rw [show registry.pass = some (snapshot, position) from moved] at idle
    cases idle
  · intro rest' listed'
    obtain rfl := Option.some.inj listed'
    refine ⟨idle, fun own acting listens => ?_⟩
    obtain ⟨differs, listens⟩ := fewer own acting listens
    obtain rfl | member := List.mem_cons.mp (listed own acting listens)
    · exact absurd rfl differs
    · exact member

/-- With nothing left to detach, the maps are cleared. -/
theorem Sound.unloaded (sound : registry.Sound) (unloading : registry.unloading = some []) :
    ({ registry with bindings := .empty, retained := .empty }).Sound := by
  obtain ⟨idle, listed⟩ := sound.unloading _ unloading
  have silent : ∀ own controller, registry.listener? controller ≠ some (own, true) := by
    intro own controller listens
    cases listed own controller listens
  refine ⟨⟨?_, ?_, ?_, ?_⟩, ?_, ?_⟩
  · intro first second own controller controller' bound
    cases bound
  · intro first own controller bound
    cases bound
  · intro loaded own controller held
    obtain ⟨subentryId, bound⟩ | retained := held
    · cases bound
    · cases retained
  · intro own controller listens
    exact absurd listens (silent own controller)
  · intro snapshot position moved
    rw [show registry.pass = some (snapshot, position) from moved] at idle
    cases idle
  · intro rest listed'
    exact ⟨idle, fun own controller listens => absurd listens (silent own controller)⟩

/-- No exception leaves the pass while it starts or detaches a controller. -/
def HandsOver (registry : RuntimeRegistry) (label : RegistryLabel) (_ : RuntimeRegistry) : Prop :=
  label = .raise → registry.inHand = none

theorem step_sound {label : RegistryLabel} (sound : registry.Sound)
    (stepped : registry.step label = some registry')
    (handsOver : HandsOver registry label registry') : registry'.Sound := by
  -- Between turns nothing is in hand.
  have idleKept : registry.inHand = none → registry.Kept none := by
    intro unhanded
    have kept := sound.kept
    rwa [unhanded] at kept
  have handOf : ∀ snapshot position, registry.pass = some (snapshot, position) →
      registry.inHand = position.hand := by
    intro snapshot position at'
    simp [inHand, at']
  cases label with
  -- A pass begins with every binding to be quiesced.
  | begin snapshot =>
    obtain ⟨⟨idle, -, loaded⟩, same⟩ := Option.ite_none_right_eq_some.mp stepped
    obtain rfl := Option.some.inj same
    have kept := idleKept (by simp [inHand, Option.isNone_iff_eq_none.mp idle])
    have begun : (registry.at' snapshot (.quiescing registry.bindings.keys)).Sound :=
      kept.at' loaded trivial
    have unapplied : (registry.at' snapshot (.quiescing registry.bindings.keys)).Same
        { registry.at' snapshot (.quiescing registry.bindings.keys) with applied := none } :=
      ⟨⟨fun _ => rfl, rfl, fun _ _ owned => owned⟩, fun _ => rfl, rfl⟩
    exact unapplied.sound rfl begun
  | go current =>
    simp only [step] at stepped
    split at stepped
    · cases stepped
    · rename_i snapshot position at'
      split at stepped
      · cases stepped
      · exact advance_sound sound at' stepped
  -- The plan and the refresh write the store only, and raise without a controller in hand.
  | plan env saved =>
    simp only [step] at stepped
    split at stepped
    · rename_i snapshot at'
      obtain rfl := Option.some.inj stepped
      have kept := idleKept (handOf _ _ at')
      have loaded := sound.loaded at'
      split
      · rename_i plan data _ _
        have stored : ({ registry with store := data } : RuntimeRegistry).Kept none :=
          ⟨kept.boundOnce, kept.apart, kept.listening, kept.registered⟩
        exact stored.at' loaded trivial
      · exact kept.leave loaded
    · cases stepped
  | refresh entities assessments saved =>
    simp only [step] at stepped
    split at stepped
    · rename_i snapshot at'
      obtain rfl := Option.some.inj stepped
      have kept := idleKept (handOf _ _ at')
      have loaded := sound.loaded at'
      split
      · rename_i data _
        have stored : ({ registry with store := data } : RuntimeRegistry).Kept none :=
          ⟨kept.boundOnce, kept.apart, kept.listening, kept.registered⟩
        exact stored.at' loaded trivial
      · exact kept.leave loaded
    · cases stepped
  -- What is raised out of a handover leaves it unfinished, so that is in the condition.
  | raise =>
    obtain ⟨⟨snapshot, position⟩, at', rfl⟩ := Option.map_eq_some_iff.mp stepped
    exact (idleKept (handsOver rfl)).leave (sound.loaded at')
  -- These touch no listener.
  | stored write =>
    obtain ⟨data, written, rfl⟩ := Option.map_eq_some_iff.mp stepped
    exact (same_stored (keepsOwners_of_write written)).sound rfl sound
  | quiesce controller =>
    obtain rfl := Option.some.inj stepped
    have same : registry.Same (registry.modify controller RuntimeController.beginQuiescing) :=
      same_modify fun _ => ⟨rfl, rfl⟩
    exact same.sound rfl sound
  | renamed controller sensor actuator =>
    obtain rfl := Option.some.inj stepped
    have same : registry.Same (registry.modify controller fun seen =>
        { seen with
          config := { seen.config with moistureSensor := sensor, actuator := actuator } }) :=
      same_modify fun _ => ⟨rfl, rfl⟩
    exact same.sound rfl sound
  | stop =>
    obtain rfl := Option.some.inj stepped
    have same : registry.Same { registry with stopping := true } :=
      ⟨⟨fun _ => rfl, rfl, fun _ _ owned => owned⟩, fun _ => rfl, rfl⟩
    exact same.sound rfl sound
  | unload =>
    obtain ⟨⟨-, idle, -⟩, same⟩ := Option.ite_none_right_eq_some.mp stepped
    obtain rfl := Option.some.inj same
    exact sound.unload (Option.isNone_iff_eq_none.mp idle)
  | detachNext =>
    simp only [step] at stepped
    split at stepped
    · cases stepped
    · rename_i unloading
      obtain rfl := Option.some.inj stepped
      exact sound.unloaded unloading
    · rename_i controller rest unloading
      obtain rfl := Option.some.inj stepped
      exact sound.detachNext unloading

theorem sound_fresh (store : StoreData) : Sound { store := store } where
  kept := by
    refine ⟨?_, ?_, ?_, ?_⟩
    · intro first second own controller controller' bound
      cases bound
    · intro first own controller bound
      cases bound
    · intro loaded own controller held
      obtain ⟨subentryId, bound⟩ | retained := held
      · cases bound
      · cases retained
    · intro own controller listens
      cases listens
  position := by
    intro snapshot position at'
    cases at'
  unloading := by
    intro rest unloading
    cases unloading

/-- In every run of an entry no record has two controllers that listen, every one that
listens is registered or in the hands of the worker, every registered one listens, and none
does once the entry is unloaded. -/
theorem oneListener_of_run {store : StoreData}
    (reached : system.Run HandsOver { store := store } registry) : registry.OneListener := by
  have sound : registry.Sound := by
    apply reached.preserves (sound_fresh store)
    intro before label after held stepped handsOver
    exact step_sound held stepped handsOver
  exact sound.oneListener

/-! ## A replaced valve -/

/-- Both switches are known; the old one is on once it is replaced. -/
def replacingEnv : PlanEnv :=
  { sampleEnv with
    registry := fun uuid => if uuid = "uuid-a" then some "switch.a" else none
    recordAssessment := fun _ => some ⟨true, false, true, Bool.false_and true⟩ }

/-- A pass that binds the bed, and one with another switch up to its last transaction. -/
def replacedValve : List RegistryLabel :=
  let turns (count : Nat) : List RegistryLabel := List.replicate count (.go true)
  let bound : List RegistryLabel :=
    .begin (sampleSnapshot "uuid-a" "switch.a") :: turns 3 ++ .plan replacingEnv true :: turns 10 ++
      .refresh replacingEnv.registry replacingEnv.recordAssessment true :: turns 2
  let replaced : List RegistryLabel :=
    .begin (sampleSnapshot "uuid-b" "switch.b") :: turns 4 ++ .plan replacingEnv true :: turns 13
  bound ++ replaced

def isRaise : RegistryLabel → Bool
  | .raise => true
  | _ => false

/-- The old switch, still on, and the new one have a listening controller each. -/
theorem oneListener_of_run_replaced :
    ∃ registry, system.Run HandsOver { store := flowingStore } registry ∧
      registry.retained.get? "record-a" = some 0 ∧
      registry.bound? "bed" = some ("minted bed", 1) ∧ registry.OneListener := by
  obtain ⟨registry, executed, handed⟩ := (Option.any_eq_true _ _).mp
    (show (system.runWhile (fun _ label _ => !isRaise label) { store := flowingStore }
      replacedValve).any (fun registry =>
        decide (registry.retained.get? "record-a" = some 0 ∧
          registry.bound? "bed" = some ("minted bed", 1))) = true by decide +kernel)
  have reached : system.Run HandsOver { store := flowingStore } registry := by
    apply LabelledSystem.Run.of_runWhile _ executed
    rintro before label after permitted rfl
    cases permitted
  obtain ⟨retained, bound⟩ := of_decide_eq_true handed
  exact ⟨registry, reached, retained, bound, oneListener_of_run reached⟩

end RuntimeRegistry

end MoistureLoop
