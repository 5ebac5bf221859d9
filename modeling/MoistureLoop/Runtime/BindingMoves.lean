import MoistureLoop.Runtime.AppliedPass

/-! # What a step does to the bindings

A turn of a pass leaves the bindings, renews one for the same record and controller, drops one
that is not kept, or binds a new controller where there was none; the other steps leave them,
but for the unload.  What a run keeps of a binding is derived from this. -/

namespace MoistureLoop

def PassPosition.planned : PassPosition → Bool
  | .quiescing _ | .displacing _ | .planning | .preparing _ (.displaced _)
  | .starting _ (.displaced _) => false
  | _ => true

def PassPosition.making? : PassPosition → Option String
  | .making zone .. | .detaching _ (.replaced zone ..) | .preparing _ (.live zone ..)
  | .starting _ (.live zone ..) => some zone.subentryId
  | _ => none

namespace RuntimeRegistry

variable {registry registry' after : RuntimeRegistry} {snapshot : ImmutableEntrySnapshot}
  {position position' : PassPosition} {current : Bool}

/-! ## Turns of the pass -/

inductive BindingsMoved (registry : RuntimeRegistry) (snapshot : ImmutableEntrySnapshot)
    (position : PassPosition) : Dict String (RuntimeControllerBinding Nat) → Prop where
  | same : BindingsMoved registry snapshot position registry.bindings
  /-- The same controller for the same record. -/
  | renewed {subentryId : String} {binding renewed : RuntimeControllerBinding Nat} :
      registry.bindings.get? subentryId = some binding →
      renewed.safetyRecordId = binding.safetyRecordId → renewed.controller = binding.controller →
      BindingsMoved registry snapshot position (registry.bindings.set subentryId renewed)
  | dropped {subentryId : String} {binding : RuntimeControllerBinding Nat} {rest : List String} :
      position = .dropping (subentryId :: rest) →
      registry.bindings.get? subentryId = some binding →
      registry.keptRecord snapshot subentryId binding = none →
      BindingsMoved registry snapshot position (registry.bindings.erase subentryId)
  | bound {subentryId : String} {binding : RuntimeControllerBinding Nat} :
      position.making? = some subentryId →
      BindingsMoved registry snapshot position (registry.bindings.set subentryId binding)

/-- The turn itself reads the store and leaves it. -/
structure Advanced (registry : RuntimeRegistry) (snapshot : ImmutableEntrySnapshot)
    (position : PassPosition) (registry' : RuntimeRegistry) : Prop where
  store : registry'.store = registry.store
  stopping : registry'.stopping = registry.stopping
  unloading : registry'.unloading = registry.unloading
  bindings : BindingsMoved registry snapshot position registry'.bindings
  pass : ∀ snapshot' position', registry'.pass = some (snapshot', position') →
    snapshot' = snapshot ∧ position'.planned = position.planned ∧
      ∀ subentryId, position'.making? = some subentryId →
        registry'.bindings = registry.bindings ∧
          (position.making? = some subentryId ∨ registry.bindings.get? subentryId = none)
  applied : ∀ snapshot', registry'.applied = some snapshot' →
    registry.applied = some snapshot' ∨
      snapshot' = snapshot ∧ position = .rereading ∧ registry'.pass = none

/-- Controllers may be made, changed and retained, and nothing else. -/
structure Untouched (registry after : RuntimeRegistry) : Prop where
  store : after.store = registry.store
  bindings : after.bindings = registry.bindings
  stopping : after.stopping = registry.stopping
  unloading : after.unloading = registry.unloading
  applied : after.applied = registry.applied

theorem untouched : registry.Untouched registry := ⟨rfl, rfl, rfl, rfl, rfl⟩

theorem untouched_modify {controller : Nat} {change : RuntimeController → RuntimeController} :
    registry.Untouched (registry.modify controller change) := ⟨rfl, rfl, rfl, rfl, rfl⟩

theorem Untouched.advanced (untouched : registry.Untouched after)
    (planned : position'.planned = position.planned)
    (making : ∀ subentryId, position'.making? = some subentryId →
      position.making? = some subentryId ∨ registry.bindings.get? subentryId = none) :
    registry.Advanced snapshot position (after.at' snapshot position') where
  store := untouched.store
  stopping := untouched.stopping
  unloading := untouched.unloading
  bindings := by
    show BindingsMoved registry snapshot position after.bindings
    rw [untouched.bindings]
    exact .same
  pass := by
    intro snapshot' position'' at'
    obtain ⟨rfl, rfl⟩ := Prod.mk.inj (Option.some.inj at')
    exact ⟨rfl, planned, fun subentryId makes => ⟨untouched.bindings, making _ makes⟩⟩
  applied := fun _ applied => .inl (untouched.applied ▸ applied)

theorem advanced_leave : registry.Advanced snapshot position registry.leave where
  store := rfl
  stopping := rfl
  unloading := rfl
  bindings := .same
  pass := by
    intro snapshot' position' at'
    cases at'
  applied := fun _ applied => .inl applied

theorem make_advanced {zoneId safetyRecordId : String} {config : ZoneConfig} {begun : AfterStart}
    (planned : (PassPosition.preparing registry.controllers.length begun).planned =
      position.planned)
    (making : ∀ subentryId,
      (PassPosition.preparing registry.controllers.length begun).making? = some subentryId →
      position.making? = some subentryId) :
    registry.Advanced snapshot position
      (registry.make snapshot zoneId safetyRecordId config begun) := by
  unfold make
  split
  · exact advanced_leave
  · rename_i canonical found
    have appended : registry.Untouched { registry with
        controllers := registry.controllers ++
          [RuntimeController.create zoneId config canonical] } := ⟨rfl, rfl, rfl, rfl, rfl⟩
    exact appended.advanced planned fun subentryId makes => .inl (making subentryId makes)

/-- Bindings change where the pass goes on, and no controller is being made. -/
theorem advanced_moved (store : after.store = registry.store)
    (stopping : after.stopping = registry.stopping)
    (unloading : after.unloading = registry.unloading) (applied : after.applied = registry.applied)
    (moved : BindingsMoved registry snapshot position after.bindings)
    (planned : position'.planned = position.planned)
    (making : position'.making? = none) :
    registry.Advanced snapshot position (after.at' snapshot position') where
  store := store
  stopping := stopping
  unloading := unloading
  bindings := moved
  pass := by
    intro snapshot' position'' at'
    obtain ⟨rfl, rfl⟩ := Prod.mk.inj (Option.some.inj at')
    refine ⟨rfl, planned, fun subentryId makes => ?_⟩
    rw [making] at makes
    cases makes
  applied := fun _ found => .inl (applied ▸ found)

theorem quiesceChanged_advanced {subentryId : String} {rest : List String} :
    registry.Advanced snapshot (.quiescing (subentryId :: rest))
      ((registry.quiesceChanged snapshot subentryId).at' snapshot (.quiescing rest)) := by
  unfold quiesceChanged
  split
  · exact untouched.advanced rfl fun _ makes => .inl makes
  · rename_i binding found
    split
    · exact untouched.advanced rfl fun _ makes => .inl makes
    · exact advanced_moved rfl rfl rfl rfl (.renewed found rfl rfl) rfl rfl

theorem dropChanged_advanced {subentryId : String} {rest : List String} :
    registry.Advanced snapshot (.dropping (subentryId :: rest))
      (registry.dropChanged snapshot subentryId rest current) := by
  unfold dropChanged
  split
  · exact untouched.advanced rfl fun _ makes => .inl makes
  · rename_i binding found
    split
    · exact advanced_moved rfl rfl rfl rfl (.renewed found rfl rfl) rfl rfl
    · rename_i unkept
      split
      · exact advanced_leave
      · split
        · exact advanced_moved rfl rfl rfl rfl (.dropped rfl found unkept) rfl rfl
        · exact advanced_moved rfl rfl rfl rfl (.dropped rfl found unkept) rfl rfl

theorem createMissing_advanced {zone : ImmutableZoneSnapshot} {rest : List ImmutableZoneSnapshot} :
    registry.Advanced snapshot (.creating (zone :: rest))
      (registry.createMissing snapshot zone rest) := by
  unfold createMissing
  split
  · split
    · exact untouched.advanced rfl fun _ makes => .inl makes
    · rename_i unbound
      have free : registry.bindings.get? zone.subentryId = none := by simpa using unbound
      have makes : ∀ subentryId, some zone.subentryId = some subentryId →
          registry.bindings.get? subentryId = none := by
        rintro subentryId same
        exact Option.some.inj same ▸ free
      split
      · rename_i record _ _ _ _
        have released : registry.Untouched (registry.release record.safetyRecordId) :=
          ⟨rfl, rfl, rfl, rfl, rfl⟩
        exact released.advanced rfl fun subentryId same => .inr (makes subentryId same)
      · exact untouched.advanced rfl fun subentryId same => .inr (makes subentryId same)
  · exact advanced_leave

theorem createController_advanced {zone : ImmutableZoneSnapshot} {record : SafetyRecord}
    {rest : List ImmutableZoneSnapshot} :
    registry.Advanced snapshot (.making zone record rest)
      (registry.createController snapshot zone record rest) := by
  unfold createController
  split
  · split
    · exact make_advanced rfl fun _ makes => makes
    · exact advanced_leave
  · exact advanced_leave

theorem register_advanced {controller : Nat} {safetyRecordId : String} {begun : AfterStart} :
    registry.Advanced snapshot (.starting controller begun)
      (registry.register snapshot controller safetyRecordId begun) := by
  cases begun with
  | displaced rest =>
    have retained : registry.Untouched (registry.retain safetyRecordId controller) :=
      ⟨rfl, rfl, rfl, rfl, rfl⟩
    exact retained.advanced rfl fun _ makes => .inl makes
  | live zone record shadow rest =>
    exact advanced_moved rfl rfl rfl rfl (.bound rfl) rfl rfl
  | retained bound rest =>
    have retained : registry.Untouched (registry.retain safetyRecordId controller) :=
      ⟨rfl, rfl, rfl, rfl, rfl⟩
    exact retained.advanced rfl fun _ makes => .inl makes

theorem detached_advanced {controller : Nat} {detached : AfterDetach}
    (untouched : registry.Untouched after) :
    registry.Advanced snapshot (.detaching controller detached)
      (after.detached snapshot detached) := by
  have released : ∀ safetyRecordId, registry.Untouched (after.release safetyRecordId) :=
    fun _ => ⟨untouched.store, untouched.bindings, untouched.stopping, untouched.unloading,
      untouched.applied⟩
  cases detached with
  | dropped | replaced => exact untouched.advanced rfl fun _ makes => .inl makes
  | released safetyRecordId | retired safetyRecordId =>
    exact (released safetyRecordId).advanced rfl fun _ makes => .inl makes

theorem releaseBound_advanced {safetyRecordId : String} {bound rest : List String} :
    registry.Advanced snapshot (.releasing bound (safetyRecordId :: rest))
      (registry.releaseBound snapshot safetyRecordId bound rest) := by
  unfold releaseBound
  split
  · exact untouched.advanced rfl fun _ makes => .inl makes
  · split
    · exact untouched.advanced rfl fun _ makes => .inl makes
    · exact untouched_modify.advanced rfl fun _ makes => .inl makes

theorem observeRecord_advanced {record : SafetyRecord} {bound : List String}
    {rest : List SafetyRecord} :
    registry.Advanced snapshot (.observing bound (record :: rest))
      (registry.observeRecord snapshot record bound rest current) := by
  unfold observeRecord
  split
  · exact untouched.advanced rfl fun _ makes => .inl makes
  · split
    · exact advanced_leave
    · exact untouched.advanced rfl fun _ makes => .inl makes
    · split
      · exact untouched.advanced rfl fun _ makes => .inl makes
      · split
        · exact advanced_leave
        · exact make_advanced rfl fun _ makes => makes

theorem retireSettled_advanced {safetyRecordId : String} {rest : List String} :
    registry.Advanced snapshot (.retiring (safetyRecordId :: rest))
      (registry.retireSettled snapshot safetyRecordId rest) := by
  unfold retireSettled
  split
  · exact untouched.advanced rfl fun _ makes => .inl makes
  · split
    · exact advanced_leave
    · simp only
      split
      · exact untouched_modify.advanced rfl fun _ makes => .inl makes
      · exact untouched_modify.advanced rfl fun _ makes => .inl makes

/-- The snapshot counts as applied only when the pass is still the latest. -/
theorem rereading_advanced : registry.Advanced snapshot .rereading
    { registry.leave with applied := if current then some snapshot else none } := by
  refine ⟨rfl, rfl, rfl, .same, ?_, fun snapshot' applied => .inr ?_⟩
  · intro snapshot' position' at'
    cases at'
  · by_cases through : current = true
    · simp only [through, if_true, Option.some.injEq] at applied
      exact ⟨applied.symm, rfl, rfl⟩
    · simp [through] at applied

/-- What one turn of the pass can do. -/
theorem advance_advanced (advanced : registry.advance snapshot current position = some registry') :
    registry.Advanced snapshot position registry' := by
  -- A turn that only moves on leaves bindings and controllers.
  have goes : ∀ {position' : PassPosition}, position'.planned = position.planned →
      position'.making? = none →
      registry.Advanced snapshot position (registry.at' snapshot position') := by
    intro position' planned making
    exact advanced_moved rfl rfl rfl rfl .same planned making
  have through : ∀ {goesOn : Prop} [Decidable goesOn] {position' : PassPosition},
      position'.planned = position.planned → position'.making? = none →
      registry.Advanced snapshot position
        (if goesOn then registry.at' snapshot position' else registry.leave) := by
    intro goesOn _ position' planned making
    split
    · exact goes planned making
    · exact advanced_leave
  -- An empty list of turns moves on; a turn has its own lemma.
  cases position with
  | quiescing rest =>
    cases rest with
    | nil =>
      obtain rfl := Option.some.inj advanced
      exact through rfl rfl
    | cons subentryId rest =>
      obtain rfl := Option.some.inj advanced
      exact quiesceChanged_advanced
  | displacing rest =>
    cases rest with
    | nil =>
      obtain rfl := Option.some.inj advanced
      exact through rfl rfl
    | cons history rest =>
      obtain rfl := Option.some.inj advanced
      split
      · exact goes rfl rfl
      · exact make_advanced rfl fun _ makes => makes
  | planning | refreshing => cases advanced
  | publishing conflicts =>
    obtain rfl := Option.some.inj advanced
    exact through rfl rfl
  | dropping rest =>
    cases rest with
    | nil =>
      obtain rfl := Option.some.inj advanced
      exact goes rfl rfl
    | cons subentryId rest =>
      obtain rfl := Option.some.inj advanced
      exact dropChanged_advanced
  | creating rest =>
    cases rest with
    | nil =>
      obtain rfl := Option.some.inj advanced
      exact through rfl rfl
    | cons zone rest =>
      obtain rfl := Option.some.inj advanced
      exact createMissing_advanced
  -- Only here is a controller created.
  | making zone record rest =>
    obtain rfl := Option.some.inj advanced
    split
    · exact createController_advanced
    · exact advanced_leave
  | preparing controller begun =>
    simp only [advance] at advanced
    split at advanced
    · cases advanced
    · obtain rfl := Option.some.inj advanced
      split
      · cases begun <;> exact untouched_modify.advanced rfl fun _ makes => .inl makes
      · exact advanced_leave
  | starting controller begun =>
    simp only [advance] at advanced
    split at advanced
    · cases advanced
    · obtain rfl := Option.some.inj advanced
      exact register_advanced
  | detaching controller detached =>
    obtain rfl := Option.some.inj advanced
    exact detached_advanced untouched_modify
  | releasing bound rest =>
    cases rest with
    | nil =>
      obtain rfl := Option.some.inj advanced
      exact goes rfl rfl
    | cons safetyRecordId rest =>
      obtain rfl := Option.some.inj advanced
      exact releaseBound_advanced
  | observing bound rest =>
    cases rest with
    | nil =>
      obtain rfl := Option.some.inj advanced
      exact goes rfl rfl
    | cons record rest =>
      obtain rfl := Option.some.inj advanced
      exact observeRecord_advanced
  | retiring rest =>
    cases rest with
    | nil =>
      obtain rfl := Option.some.inj advanced
      exact through rfl rfl
    | cons safetyRecordId rest =>
      obtain rfl := Option.some.inj advanced
      exact retireSettled_advanced
  | rereading =>
    obtain rfl := Option.some.inj advanced
    exact rereading_advanced

/-! ## Steps -/

/-- What a step does besides: only a plan leads past the planning, only a pass that went through
is applied, and without a pass the bindings stay until the unload. -/
structure Stepped (registry : RuntimeRegistry) (label : RegistryLabel)
    (registry' : RuntimeRegistry) : Prop where
  stopping : registry'.stopping = registry.stopping
  unloading : registry'.unloading = registry.unloading ∨ registry'.unloading ≠ none ∧
    (registry.stopping = true ∨ registry.unloading ≠ none)
  pass : ∀ snapshot position', registry'.pass = some (snapshot, position') →
    ∃ position, registry.pass = some (snapshot, position) ∧
      (position'.planned = true → position.planned = true ∨ ∃ env saved, label = .plan env saved)
  applied : ∀ snapshot, registry'.applied = some snapshot → registry.applied = some snapshot ∨
    ∃ position, registry.pass = some (snapshot, position) ∧ position.planned = true
  idle : registry.pass = none → registry.stopping = false → registry.unloading = none →
    registry'.applied = registry.applied ∧ registry'.bindings = registry.bindings

theorem stepped_of_same {label : RegistryLabel} (stopping : registry'.stopping = registry.stopping)
    (unloading : registry'.unloading = registry.unloading)
    (pass : registry'.pass = registry.pass ∨ registry'.pass = none)
    (applied : registry'.applied = registry.applied)
    (bindings : registry'.bindings = registry.bindings) : registry.Stepped label registry' where
  stopping := stopping
  unloading := .inl unloading
  pass := by
    intro snapshot position' at'
    obtain same | none' := pass
    · exact ⟨position', same ▸ at', .inl⟩
    · rw [none'] at at'
      cases at'
  applied := fun _ found => .inl (applied ▸ found)
  idle := fun _ _ _ => ⟨applied, bindings⟩

theorem step_stepped {label : RegistryLabel} (stepped : registry.step label = some registry')
    (begins : ∀ snapshot, label ≠ .begin snapshot) (stops : label ≠ .stop) :
    registry.Stepped label registry' := by
  cases label with
  | begin snapshot => exact absurd rfl (begins snapshot)
  | stop => exact absurd rfl stops
  -- The pass takes a turn.
  | go current =>
    simp only [step] at stepped
    split at stepped
    · cases stepped
    · rename_i snapshot position at'
      split at stepped
      · cases stepped
      · have moved := advance_advanced stepped
        refine ⟨moved.stopping, .inl moved.unloading, ?_, ?_, ?_⟩
        · intro snapshot' position' moved'
          obtain ⟨rfl, planned, -⟩ := moved.pass snapshot' position' moved'
          exact ⟨position, at', fun reached => .inl (planned ▸ reached)⟩
        · intro snapshot' applied
          obtain same | ⟨rfl, rfl, -⟩ := moved.applied snapshot' applied
          · exact .inl same
          · exact .inr ⟨.rereading, at', rfl⟩
        · intro idle
          rw [at'] at idle
          cases idle
  -- A plan that was stored moves on, any other ends the pass.
  | plan env saved =>
    simp only [step] at stepped
    split at stepped
    · rename_i snapshot at'
      obtain rfl := Option.some.inj stepped
      have working : registry.pass = none → False := fun idle => by
        rw [at'] at idle
        cases idle
      split
      · refine ⟨rfl, .inl rfl, ?_, fun _ => .inl, fun idle => (working idle).elim⟩
        intro snapshot' position' moved
        obtain ⟨rfl, -⟩ := Prod.mk.inj (Option.some.inj moved)
        exact ⟨.planning, at', fun _ => .inr ⟨env, saved, rfl⟩⟩
      · exact stepped_of_same rfl rfl (.inr rfl) rfl rfl
    · cases stepped
  | refresh entities assessments saved =>
    simp only [step] at stepped
    split at stepped
    · rename_i snapshot at'
      obtain rfl := Option.some.inj stepped
      have working : registry.pass = none → False := fun idle => by
        rw [at'] at idle
        cases idle
      split
      · refine ⟨rfl, .inl rfl, ?_, fun _ => .inl, fun idle => (working idle).elim⟩
        intro snapshot' position' moved
        obtain ⟨rfl, -⟩ := Prod.mk.inj (Option.some.inj moved)
        exact ⟨.refreshing, at', fun _ => .inl rfl⟩
      · exact stepped_of_same rfl rfl (.inr rfl) rfl rfl
    · cases stepped
  -- No step of another task moves the pass.
  | raise =>
    obtain ⟨pass, -, rfl⟩ := Option.map_eq_some_iff.mp stepped
    exact stepped_of_same rfl rfl (.inr rfl) rfl rfl
  | stored write =>
    obtain ⟨data, -, rfl⟩ := Option.map_eq_some_iff.mp stepped
    exact stepped_of_same rfl rfl (.inl rfl) rfl rfl
  | quiesce | renamed =>
    obtain rfl := Option.some.inj stepped
    exact stepped_of_same rfl rfl (.inl rfl) rfl rfl
  | unload =>
    obtain ⟨⟨stopping, -⟩, same⟩ := Option.ite_none_right_eq_some.mp stepped
    obtain rfl := Option.some.inj same
    refine ⟨rfl, .inr ⟨by simp, .inl stopping⟩, fun _ position' at' => ⟨position', at', .inl⟩, ?_, ?_⟩
    · intro snapshot applied
      cases applied
    · intro _ running
      rw [stopping] at running
      cases running
  | detachNext =>
    simp only [step] at stepped
    split at stepped
    · cases stepped
    · rename_i unloading
      obtain rfl := Option.some.inj stepped
      refine ⟨rfl, .inl rfl, fun _ position' at' => ⟨position', at', .inl⟩, fun _ => .inl, ?_⟩
      intro _ _ loaded
      rw [unloading] at loaded
      cases loaded
    · rename_i controller rest unloading
      obtain rfl := Option.some.inj stepped
      refine ⟨rfl, .inr ⟨by simp, .inr (by simp [unloading])⟩,
        fun _ position' at' => ⟨position', at', .inl⟩, fun _ => .inl, ?_⟩
      exact fun _ _ _ => ⟨rfl, rfl⟩

end RuntimeRegistry

end MoistureLoop
