import MoistureLoop.Controller.Attach
import MoistureLoop.Controller.Authority
import MoistureLoop.Foundations.Guarded
import MoistureLoop.Runtime.EntryTransactions

/-! # One pass over a configuration snapshot

`_apply_configuration_snapshot` quiesces what changed, plans the store, and then brings the
controllers in line with it: it drops, transfers, creates and retains them one by one, with
awaits between that the other tasks use.  A label is one turn of a loop, or one piece between
two awaits, with the answer of `is_current` where the pass asks for it; other tasks may come in
after each of them, also after a turn that awaits nothing.  What the pass writes of the blockers
and of the sessions is left to the other steps. -/

namespace MoistureLoop

/-! ## Controllers as the runtime sees them -/

/-- What the entry runtime reads and writes of one of its `ZoneController` objects. -/
structure RuntimeController where
  zoneId : String
  safetyRecordId : String
  zoneHistoryId : String
  runtimeLifecycle : RuntimeLifecycle
  appliedConfig : Option AppliedConfigurationShadow
  config : ZoneConfig
  quiescing : Bool := false
  /-- The listeners are installed. -/
  attached : Bool := false
  deriving DecidableEq

/-- `_config_from_shadow`. -/
def AppliedConfigurationShadow.zoneConfig (shadow : AppliedConfigurationShadow) : ZoneConfig :=
  shadow.normalizedSettings.toConfig shadow.sensorIdentity.lastKnownEntityId
    shadow.actuatorIdentity.lastKnownEntityId

/-- `_config_from_record`: the record's configuration, at the entity IDs of today. -/
def configFromRecord (data : StoreFields) (record : SafetyRecord)
    (shadow : AppliedConfigurationShadow) : ZoneConfig :=
  let sensor := (data.zoneHistories.get? record.zoneHistoryId).bind fun history =>
    history.zoneRuntime.sensorIdentity.lastKnownEntityId
  { shadow.zoneConfig with
    moistureSensor :=
      ImmutableZoneSnapshot.entityOr sensor shadow.sensorIdentity.lastKnownEntityId
    actuator := ImmutableZoneSnapshot.entityOr record.actuatorIdentity.lastKnownEntityId
      shadow.actuatorIdentity.lastKnownEntityId }

namespace RuntimeController

/-- `ZoneController.__init__` for a canonical record of the store. -/
def create (zoneId : String) (config : ZoneConfig) (canonical : SafetyRecord) :
    RuntimeController where
  zoneId := zoneId
  safetyRecordId := canonical.safetyRecordId
  zoneHistoryId := canonical.zoneHistoryId
  runtimeLifecycle := canonical.runtimeLifecycle
  appliedConfig := canonical.appliedConfig
  config := config

def beginQuiescing (controller : RuntimeController) : RuntimeController :=
  { controller with quiescing := true }

def updateRuntimeOwnership (controller : RuntimeController) (record : SafetyRecord) :
    RuntimeController :=
  { controller with
    zoneHistoryId := record.zoneHistoryId
    runtimeLifecycle := record.runtimeLifecycle
    appliedConfig := record.appliedConfig
    quiescing := record.runtimeLifecycle ≠ .active }

/-- What `async_attach` checks before it adopts anything. -/
def attaches (controller : RuntimeController) (data : StoreFields) : Bool :=
  match data.safetyRecords.get? controller.safetyRecordId,
      data.zoneHistories.get? controller.zoneHistoryId with
  | some record, some history =>
    decide (record.zoneHistoryId = controller.zoneHistoryId) &&
      !history.zoneRuntime.session.any fun persisted =>
        persisted.ownerSafetyRecordId ≠ controller.safetyRecordId
  | _, _ => false

structure Shows (seen : RuntimeController) (controller : ZoneController) : Prop where
  zoneId : controller.zoneId = seen.zoneId
  safetyRecordId : controller.safetyRecordId = seen.safetyRecordId
  zoneHistoryId : controller.zoneHistoryId = seen.zoneHistoryId
  runtimeLifecycle : controller.runtimeLifecycle = seen.runtimeLifecycle
  config : controller.config = seen.config

variable {seen : RuntimeController} {controller : ZoneController}

end RuntimeController

/-! ## Where a pass stands -/

/-- What becomes of a controller once its startup events are dispatched. -/
inductive AfterStart where
  | displaced (rest : List ZoneHistory)
  | live (zone : ImmutableZoneSnapshot) (record : SafetyRecord)
      (shadow : AppliedConfigurationShadow) (rest : List ImmutableZoneSnapshot)
  | retained (bound : List String) (rest : List SafetyRecord)

inductive AfterDetach where
  | dropped (rest : List String)
  | replaced (zone : ImmutableZoneSnapshot) (record : SafetyRecord)
      (rest : List ImmutableZoneSnapshot)
  | released (safetyRecordId : String) (bound : List String) (rest : List String)
  | retired (safetyRecordId : String) (rest : List String)

/-- The await that a pass is in, with what its loops still have to do.  `bound` are the
records of the bindings, `current_record_ids`. -/
inductive PassPosition where
  | quiescing (rest : List String)
  | displacing (rest : List ZoneHistory)
  | planning
  | publishing (conflicts : List String)
  | dropping (rest : List String)
  | creating (rest : List ImmutableZoneSnapshot)
  | making (zone : ImmutableZoneSnapshot) (record : SafetyRecord)
      (rest : List ImmutableZoneSnapshot)
  | preparing (controller : Nat) (after : AfterStart)
  | starting (controller : Nat) (after : AfterStart)
  | detaching (controller : Nat) (after : AfterDetach)
  | releasing (bound : List String) (rest : List String)
  | observing (bound : List String) (rest : List SafetyRecord)
  | refreshing
  | retiring (rest : List String)
  | rereading

/-- The controllers of an entry, and the worker that brings them in line. -/
structure RuntimeRegistry where
  store : StoreData
  /-- Every `ZoneController` made so far; a controller is known by its place. -/
  controllers : List RuntimeController := []
  bindings : Dict String (RuntimeControllerBinding Nat) := .empty
  retained : Dict String Nat := .empty
  /-- `close_publication_now` was called. -/
  stopping : Bool := false
  pass : Option (ImmutableEntrySnapshot × PassPosition) := none
  /-- The snapshot of the last pass that went through, until the next one begins. -/
  applied : Option ImmutableEntrySnapshot := none
  /-- The controllers that `async_unload` still has to detach. -/
  unloading : Option (List Nat) := none

namespace RuntimeRegistry

variable (registry : RuntimeRegistry)

/-- The pass goes on to another await. -/
def at' (snapshot : ImmutableEntrySnapshot) (position : PassPosition) : RuntimeRegistry :=
  { registry with pass := some (snapshot, position) }

/-- The pass returns or raises. -/
def leave : RuntimeRegistry := { registry with pass := none }

def modify (controller : Nat) (change : RuntimeController → RuntimeController) :
    RuntimeRegistry :=
  { registry with controllers := registry.controllers.modify controller change }

def retain (safetyRecordId : String) (controller : Nat) : RuntimeRegistry :=
  { registry with retained := registry.retained.set safetyRecordId controller }

def release (safetyRecordId : String) : RuntimeRegistry :=
  { registry with retained := registry.retained.erase safetyRecordId }

def unbind (subentryId : String) : RuntimeRegistry :=
  { registry with bindings := registry.bindings.erase subentryId }

def bind' (subentryId : String) (binding : RuntimeControllerBinding Nat) : RuntimeRegistry :=
  { registry with bindings := registry.bindings.set subentryId binding }

/-- A new controller for a record, which raises without a canonical one. -/
def make (snapshot : ImmutableEntrySnapshot) (zoneId safetyRecordId : String)
    (config : ZoneConfig) (after : AfterStart) : RuntimeRegistry :=
  match registry.store.safetyRecords.get? safetyRecordId with
  | none => registry.leave
  | some canonical =>
    let created := RuntimeController.create zoneId config canonical
    { registry with controllers := registry.controllers ++ [created] }.at' snapshot
      (.preparing registry.controllers.length after)

/-! ## The loops -/

/-- The head of the loop that quiesces removed and changed controllers. -/
def quiesceChanged (snapshot : ImmutableEntrySnapshot) (subentryId : String) : RuntimeRegistry :=
  match registry.bindings.get? subentryId with
  | none => registry
  | some binding =>
    if (snapshot.bySubentryId subentryId).any fun zone =>
        zone.configFingerprint = binding.appliedShadow.configFingerprint then registry
    else
      (registry.bind' subentryId { binding with quiescing := true }).modify binding.controller
        RuntimeController.beginQuiescing

def identityResolved (record : SafetyRecord) : Bool :=
  record.actuatorIdentity.identityStatus = .registryConfirmed ||
    record.actuatorIdentity.identityStatus = .registryUnavailable

/-- The record whose session is displaced and has no controller: its actuator is not that of
the zone it was for. -/
def displacedRecord (snapshot : ImmutableEntrySnapshot) (history : ZoneHistory) :
    Option (SafetyRecord × AppliedConfigurationShadow) :=
  match history.zoneRuntime.session with
  | none => none
  | some persisted =>
    match registry.store.safetyRecords.get? persisted.ownerSafetyRecordId with
    | none => none
    | some record =>
      match record.appliedConfig with
      | none => none
      | some shadow =>
        if (record.activeSubentryId.bind snapshot.bySubentryId).any (sameActuator record) then none
        else if registry.bindings.values.any fun binding =>
            binding.safetyRecordId = record.safetyRecordId then none
        else if (registry.retained.get? record.safetyRecordId).isSome then none
        else if identityResolved record then some (record, shadow) else none

/-- The record a binding is kept for: it is the zone's, with the zone's configuration. -/
def keptRecord (snapshot : ImmutableEntrySnapshot) (subentryId : String)
    (binding : RuntimeControllerBinding Nat) : Option (SafetyRecord × AppliedConfigurationShadow) :=
  match snapshot.bySubentryId subentryId,
      registry.store.safetyRecords.get? binding.safetyRecordId with
  | some desired, some record =>
    match record.appliedConfig with
    | some shadow =>
      if record.runtimeLifecycle = .active ∧ record.activeSubentryId = some subentryId ∧
          shadow.configFingerprint = desired.configFingerprint then some (record, shadow)
      else none
    | none => none
  | _, _ => none

/-- The first loop of `_synchronize_live_controllers`. -/
def dropChanged (snapshot : ImmutableEntrySnapshot) (subentryId : String) (rest : List String)
    (current : Bool) : RuntimeRegistry :=
  match registry.bindings.get? subentryId with
  | none => registry.at' snapshot (.dropping rest)
  | some binding =>
    match registry.keptRecord snapshot subentryId binding with
    | some (record, shadow) =>
      ((registry.bind' subentryId { binding with
        lifecycle := .active
        appliedShadow := shadow
        zoneHistoryId := record.zoneHistoryId
        quiescing := false }).modify binding.controller
          (·.updateRuntimeOwnership record)).at' snapshot (.dropping rest)
    | none =>
      if !current then registry.leave
      else
        match (registry.store.safetyRecords.get? binding.safetyRecordId).filter
            fun record => record.runtimeLifecycle = .deletePending with
        | some record =>
          (((registry.unbind subentryId).modify binding.controller
            (·.updateRuntimeOwnership record)).retain record.safetyRecordId
              binding.controller).at' snapshot (.dropping rest)
        | none =>
          (registry.unbind subentryId).at' snapshot (.detaching binding.controller (.dropped rest))

/-- The canonical records of a configured zone. -/
def activeRecords (subentryId : String) : List SafetyRecord :=
  registry.store.safetyRecords.values.filter fun record =>
    record.activeSubentryId = some subentryId && record.runtimeLifecycle = .active

/-- The second loop, up to the detaching of the controller that retained the record. -/
def createMissing (snapshot : ImmutableEntrySnapshot) (zone : ImmutableZoneSnapshot)
    (rest : List ImmutableZoneSnapshot) : RuntimeRegistry :=
  match registry.activeRecords zone.subentryId with
  | [record] =>
    if (registry.bindings.get? zone.subentryId).isSome then registry.at' snapshot (.creating rest)
    else
      match registry.retained.get? record.safetyRecordId with
      | some controller =>
        (registry.release record.safetyRecordId).at' snapshot
          (.detaching controller (.replaced zone record rest))
      | none => registry.at' snapshot (.making zone record rest)
  -- "configured zone ... has ... canonical records"
  | _ => registry.leave

/-- `_create_controller`, which requires verified ACTIVE ownership. -/
def createController (snapshot : ImmutableEntrySnapshot) (zone : ImmutableZoneSnapshot)
    (record : SafetyRecord) (rest : List ImmutableZoneSnapshot) : RuntimeRegistry :=
  match record.appliedConfig with
  | some shadow =>
    if record.runtimeLifecycle = .active ∧ record.activeSubentryId = some zone.subentryId ∧
        (registry.store.zoneHistories.get? record.zoneHistoryId).isSome then
      registry.make snapshot zone.subentryId record.safetyRecordId zone.currentConfig
        (.live zone record shadow rest)
    else registry.leave
  | none => registry.leave

/-- The controller is started: it becomes a binding, or a retained controller. -/
def register (snapshot : ImmutableEntrySnapshot) (controller : Nat) (safetyRecordId : String) :
    AfterStart → RuntimeRegistry
  | .displaced rest => (registry.retain safetyRecordId controller).at' snapshot (.displacing rest)
  | .live zone record shadow rest =>
    (registry.bind' zone.subentryId
      { safetyRecordId := record.safetyRecordId
        zoneHistoryId := record.zoneHistoryId
        lifecycle := record.runtimeLifecycle
        appliedShadow := shadow
        controller := controller
        quiescing := false }).at' snapshot (.creating rest)
  | .retained bound rest =>
    (registry.retain safetyRecordId controller).at' snapshot (.observing bound rest)

def detached (snapshot : ImmutableEntrySnapshot) : AfterDetach → RuntimeRegistry
  | .dropped rest => registry.at' snapshot (.dropping rest)
  | .replaced zone record rest => registry.at' snapshot (.making zone record rest)
  | .released safetyRecordId bound rest =>
    (registry.release safetyRecordId).at' snapshot (.releasing bound rest)
  | .retired safetyRecordId rest =>
    (registry.release safetyRecordId).at' snapshot (.retiring rest)

/-- The first loop of `_synchronize_retained_controllers`. -/
def releaseBound (snapshot : ImmutableEntrySnapshot) (safetyRecordId : String)
    (bound rest : List String) : RuntimeRegistry :=
  match registry.retained.get? safetyRecordId with
  | none => registry.at' snapshot (.releasing bound rest)
  | some controller =>
    match (registry.store.safetyRecords.get? safetyRecordId).filter
        fun _ => safetyRecordId ∉ bound with
    | none => registry.at' snapshot (.detaching controller (.released safetyRecordId bound rest))
    | some record =>
      (registry.modify controller (·.updateRuntimeOwnership record)).at' snapshot
        (.releasing bound rest)

def needsObservation (record : SafetyRecord) (history : ZoneHistory) : Bool :=
  record.runtimeLifecycle = .deletePending || !record.blockerReasons.isEmpty ||
    record.possibleFlowOwner.isSome || history.zoneRuntime.session.isSome

/-- The second loop, over the records as they were when it began. -/
def observeRecord (snapshot : ImmutableEntrySnapshot) (record : SafetyRecord)
    (bound : List String) (rest : List SafetyRecord) (current : Bool) : RuntimeRegistry :=
  if record.safetyRecordId ∈ bound then registry.at' snapshot (.observing bound rest)
  else
    match registry.store.zoneHistories.get? record.zoneHistoryId, record.appliedConfig with
    -- A `KeyError`.
    | none, _ => registry.leave
    | some _, none => registry.at' snapshot (.observing bound rest)
    | some history, some shadow =>
      if !needsObservation record history ∨
          (registry.retained.get? record.safetyRecordId).isSome ∨ !identityResolved record then
        registry.at' snapshot (.observing bound rest)
      else if !current then registry.leave
      else
        registry.make snapshot record.zoneId record.safetyRecordId
          (configFromRecord registry.store.toStoreFields record shadow) (.retained bound rest)

/-- The loop after the tombstones were refreshed. -/
def retireSettled (snapshot : ImmutableEntrySnapshot) (safetyRecordId : String)
    (rest : List String) : RuntimeRegistry :=
  match registry.retained.get? safetyRecordId with
  | none => registry.at' snapshot (.retiring rest)
  | some controller =>
    match registry.store.safetyRecords.get? safetyRecordId with
    -- A `KeyError`.
    | none => registry.leave
    | some record =>
      let updated := registry.modify controller (·.updateRuntimeOwnership record)
      if record.runtimeLifecycle = .retired ∧ record.blockerReasons = [] ∧
          record.possibleFlowOwner = none then
        updated.at' snapshot (.detaching controller (.retired safetyRecordId rest))
      else updated.at' snapshot (.retiring rest)

/-! ## Steps -/

/-- The pass runs from one await to the next; `current` is the answer of `is_current`. -/
def advance (snapshot : ImmutableEntrySnapshot) (current : Bool) :
    PassPosition → Option RuntimeRegistry
  | .quiescing [] =>
    some (if current then
      registry.at' snapshot (.displacing registry.store.zoneHistories.values) else registry.leave)
  | .quiescing (subentryId :: rest) =>
    some ((registry.quiesceChanged snapshot subentryId).at' snapshot (.quiescing rest))
  | .displacing [] => some (if current then registry.at' snapshot .planning else registry.leave)
  | .displacing (history :: rest) =>
    some (match registry.displacedRecord snapshot history with
      | none => registry.at' snapshot (.displacing rest)
      | some (record, shadow) =>
        registry.make snapshot record.zoneId record.safetyRecordId
          (configFromRecord registry.store.toStoreFields record shadow) (.displaced rest))
  | .publishing conflicts =>
    some (if current = true ∧ conflicts = [] then
      registry.at' snapshot (.dropping registry.bindings.keys) else registry.leave)
  | .dropping [] => some (registry.at' snapshot (.creating snapshot.zones))
  | .dropping (subentryId :: rest) => some (registry.dropChanged snapshot subentryId rest current)
  | .creating [] =>
    some (if current then
      registry.at' snapshot (.releasing
        (registry.bindings.values.map RuntimeControllerBinding.safetyRecordId)
        registry.retained.keys)
      else registry.leave)
  | .creating (zone :: rest) => some (registry.createMissing snapshot zone rest)
  | .making zone record rest =>
    some (if current then registry.createController snapshot zone record rest else registry.leave)
  | .preparing controller after =>
    match registry.controllers[controller]? with
    | none => none
    | some created =>
      some (if created.attaches registry.store.toStoreFields then
        (registry.modify controller ({ · with attached := true })).at' snapshot
          (.starting controller after) else registry.leave)
  | .starting controller after =>
    match registry.controllers[controller]? with
    | none => none
    | some started => some (registry.register snapshot controller started.safetyRecordId after)
  | .detaching controller after =>
    some ((registry.modify controller ({ · with quiescing := true, attached := false })).detached
      snapshot after)
  | .releasing bound [] =>
    some (registry.at' snapshot (.observing bound registry.store.safetyRecords.values))
  | .releasing bound (safetyRecordId :: rest) =>
    some (registry.releaseBound snapshot safetyRecordId bound rest)
  | .observing _ [] => some (registry.at' snapshot .refreshing)
  | .observing bound (record :: rest) =>
    some (registry.observeRecord snapshot record bound rest current)
  | .retiring [] => some (if current then registry.at' snapshot .rereading else registry.leave)
  | .retiring (safetyRecordId :: rest) => some (registry.retireSettled snapshot safetyRecordId rest)
  | .rereading => some { registry.leave with applied := if current then some snapshot else none }
  | .planning | .refreshing => none

/-- What no step but a plan and a refresh changes of a record. -/
def sameOwner (record after : SafetyRecord) : Bool :=
  after.activeSubentryId = record.activeSubentryId &&
    after.runtimeLifecycle = record.runtimeLifecycle &&
    after.zoneHistoryId = record.zoneHistoryId && after.appliedConfig = record.appliedConfig &&
    after.actuatorIdentity = record.actuatorIdentity

/-- Every record is there after the write, with the same owner. -/
def keepsOwners (data data' : StoreFields) : Bool :=
  data.safetyRecords.entries.all fun entry =>
    (data'.safetyRecords.get? entry.1).any (sameOwner entry.2)

end RuntimeRegistry

inductive StoreWrite where
  /-- `async_update_controller_runtime`. -/
  | controller (safetyRecordId zoneHistoryId : String) (update : ControllerUpdate)
  /-- `async_rebase_soaking_owner_for_record`. -/
  | rebase (safetyRecordId runId : String)
  | transaction (change : EntryTransaction)
  | newRun (runId : String)
  | cleanRun

/-- The snapshot that the write leaves; a plan and a refresh are the pass's. -/
def StoreWrite.result (data : StoreData) : StoreWrite → Option StoreData
  | .controller safetyRecordId zoneHistoryId update =>
    (updateControllerRuntime data safetyRecordId zoneHistoryId update).toOption
  | .rebase safetyRecordId runId =>
    (rebaseSoakingOwnerForRecord data safetyRecordId runId).toOption
  | .transaction (.plan ..) | .transaction (.refreshTombstones ..) => none
  | .transaction change => (change.result data).toOption.join
  | .newRun runId => (beginNewRun data runId).toOption
  | .cleanRun => (markCleanShutdown data).toOption

inductive RegistryLabel where
  | begin (snapshot : ImmutableEntrySnapshot)
  | go (current : Bool)
  /-- The transaction of the plan, and whether the backend verified it. -/
  | plan (env : PlanEnv) (saved : Bool)
  | refresh (entities : EntityRegistry) (assessments : String → Option ActuatorAssessment)
      (saved : Bool)
  /-- What the pass awaits raises. -/
  | raise
  | stored (write : StoreWrite)
  /-- The final gate of a controller requires it to quiesce. -/
  | quiesce (controller : Nat)
  /-- A controller follows a rename of its sensor or its actuator. -/
  | renamed (controller : Nat) (sensor actuator : String)
  | stop
  | unload
  | detachNext

namespace RuntimeRegistry

def step (registry : RuntimeRegistry) : RegistryLabel → Option RuntimeRegistry
  | .begin snapshot =>
    if registry.pass.isNone ∧ registry.stopping = false ∧ registry.unloading = none then
      some { registry.at' snapshot (.quiescing registry.bindings.keys) with applied := none }
    else none
  | .go current =>
    match registry.pass with
    | none => none
    | some (snapshot, position) =>
      if current = true ∧ registry.stopping = true then none
      else registry.advance snapshot current position
  | .plan env saved =>
    match registry.pass with
    | some (snapshot, .planning) =>
      some (match planReconciledStore env snapshot registry.store.toStoreFields,
          (reconcile registry.store (planMutator env snapshot)).bind (saveAndVerify · saved) with
        | .ok plan, .ok data =>
          { registry with store := data }.at' snapshot (.publishing plan.conflicts)
        | _, _ => registry.leave)
    | _ => none
  | .refresh entities assessments saved =>
    match registry.pass with
    | some (snapshot, .refreshing) =>
      some (match (reconcile registry.store (refreshTombstones entities assessments)).bind
          (saveAndVerify · saved) with
        | .ok data => { registry with store := data }.at' snapshot
          (.retiring registry.retained.keys)
        | .error _ => registry.leave)
    | _ => none
  | .raise => registry.pass.map fun _ => registry.leave
  | .stored write =>
    (write.result registry.store).map fun data => { registry with store := data }
  | .quiesce controller => some (registry.modify controller RuntimeController.beginQuiescing)
  | .renamed controller sensor actuator =>
    some (registry.modify controller fun seen =>
      { seen with config := { seen.config with moistureSensor := sensor, actuator := actuator } })
  | .stop => some { registry with stopping := true }
  | .unload =>
    -- `async_stop` has joined the worker.
    if registry.stopping = true ∧ registry.pass.isNone ∧ registry.unloading = none then
      some { registry with
        applied := none
        unloading := some (registry.bindings.values.map RuntimeControllerBinding.controller ++
          registry.retained.values) }
    else none
  | .detachNext =>
    match registry.unloading with
    | none => none
    | some [] => some { registry with bindings := .empty, retained := .empty }
    | some (controller :: rest) =>
      some { registry.modify controller ({ · with quiescing := true, attached := false }) with
        unloading := some rest }

/-- The controllers and the worker as a labelled system. -/
def system : LabelledSystem RuntimeRegistry RegistryLabel := ⟨RuntimeRegistry.step⟩

end RuntimeRegistry

/-! ## The other writes -/

namespace RuntimeRegistry

/-- The fields that `sameOwner` compares. -/
structure SameOwner (record after : SafetyRecord) : Prop where
  activeSubentryId : after.activeSubentryId = record.activeSubentryId
  runtimeLifecycle : after.runtimeLifecycle = record.runtimeLifecycle
  zoneHistoryId : after.zoneHistoryId = record.zoneHistoryId
  appliedConfig : after.appliedConfig = record.appliedConfig
  actuatorIdentity : after.actuatorIdentity = record.actuatorIdentity

theorem sameOwner_iff {record after : SafetyRecord} :
    sameOwner record after = true ↔ SameOwner record after := by
  simp only [sameOwner, Bool.and_eq_true, decide_eq_true_eq]
  constructor
  · rintro ⟨⟨⟨⟨subentry, lifecycle⟩, history⟩, applied⟩, identity⟩
    exact ⟨subentry, lifecycle, history, applied, identity⟩
  · rintro ⟨subentry, lifecycle, history, applied, identity⟩
    exact ⟨⟨⟨⟨subentry, lifecycle⟩, history⟩, applied⟩, identity⟩

theorem sameOwner_refl (record : SafetyRecord) : sameOwner record record = true := by
  simp [sameOwner]

theorem keepsOwners_of_records {data data' : StoreFields}
    (same : data'.safetyRecords = data.safetyRecords) : keepsOwners data data' = true := by
  refine List.all_eq_true.mpr fun entry member => ?_
  rw [same, Dict.get?_eq_some_iff.mpr member]
  exact sameOwner_refl entry.2

theorem keepsOwners_of_set {data data' : StoreFields} {safetyRecordId : String}
    {record after : SafetyRecord}
    (written : data'.safetyRecords = data.safetyRecords.set safetyRecordId after)
    (found : data.safetyRecords.get? safetyRecordId = some record)
    (same : sameOwner record after = true) : keepsOwners data data' = true := by
  refine List.all_eq_true.mpr fun entry member => ?_
  have held : data.safetyRecords.get? entry.1 = some entry.2 := Dict.get?_eq_some_iff.mpr member
  rw [written, Dict.get?_set]
  split
  · rename_i here
    rw [here, found] at held
    obtain rfl := Option.some.inj held
    exact same
  · rw [held]
    exact sameOwner_refl entry.2

theorem keepsOwners_of_controllerWrite {data data' : StoreData}
    {safetyRecordId zoneHistoryId : String} {update : ControllerUpdate}
    (written : updateControllerRuntime data safetyRecordId zoneHistoryId update = .ok data') :
    keepsOwners data.toStoreFields data'.toStoreFields = true := by
  obtain ⟨record, history, faults, found, -, -, -, stored⟩ :=
    updateControllerRuntime_eq_ok_iff.mp written
  have changed : data'.safetyRecords =
      data.safetyRecords.set safetyRecordId (update.record faults record) := by
    rw [stored]
    rfl
  exact keepsOwners_of_set changed found (by simp [sameOwner, ControllerUpdate.record])

theorem keepsOwners_of_rebase {data data' : StoreData} {safetyRecordId runId : String}
    (rebased : rebaseSoakingOwnerForRecord data safetyRecordId runId = .ok data') :
    keepsOwners data.toStoreFields data'.toStoreFields = true := by
  apply keepsOwners_of_records
  simp only [rebaseSoakingOwnerForRecord] at rebased
  split at rebased
  · cases rebased
  · split at rebased
    · cases rebased
    · split at rebased
      · cases rebased
      · rw [StoreFields.check_eq_ok_iff.mp rebased]

/-- Only a plan and a refresh of the tombstones give a record another owner. -/
theorem keepsOwners_of_transaction {data data' : StoreData} {change : EntryTransaction}
    (changed : change.result data = .ok (some data'))
    (plans : ∀ env snapshot, change ≠ .plan env snapshot)
    (refreshes : ∀ registry assessments, change ≠ .refreshTombstones registry assessments) :
    keepsOwners data.toStoreFields data'.toStoreFields = true := by
  cases EntryTransaction.saves_of_result changed with
  | planned => exact absurd rfl (plans _ _)
  | refreshed => exact absurd rfl (refreshes _ _)
  | restored saved | cleared _ saved | resaved saved =>
    exact keepsOwners_of_records (by rw [saved]; rfl)
  | record _ held saved =>
    refine keepsOwners_of_set (by rw [saved]; rfl) held ?_
    cases change <;> simp [EntryTransaction.writeRecord, sameOwner, SafetyRecord.withBlocker]

/-- The other writes keep every record with its owner. -/
theorem keepsOwners_of_write {data data' : StoreData} {write : StoreWrite}
    (written : write.result data = some data') :
    keepsOwners data.toStoreFields data'.toStoreFields = true := by
  cases write with
  | controller safetyRecordId zoneHistoryId update =>
    exact keepsOwners_of_controllerWrite (Except.toOption_eq_some_iff.mp written)
  | rebase safetyRecordId runId => exact keepsOwners_of_rebase (Except.toOption_eq_some_iff.mp written)
  | transaction change =>
    have joined : ∀ {result : Except PyError (Option StoreData)},
        result.toOption.join = some data' → result = .ok (some data') := fun joined =>
      Except.toOption_eq_some_iff.mp (Option.join_eq_some_iff.mp joined)
    cases change with
    | plan | refreshTombstones => cases written
    | restoreTerminalReason | clearConfigurationFault | setRecordBlocker
    | acknowledgeActuatorFault | acknowledgeRemovedActuator =>
      exact keepsOwners_of_transaction (joined written) (by simp) (by simp)
  | newRun runId =>
    obtain same := StoreFields.check_eq_ok_iff.mp (Except.toOption_eq_some_iff.mp written)
    exact keepsOwners_of_records (by rw [same])
  | cleanRun =>
    obtain same := StoreFields.check_eq_ok_iff.mp (Except.toOption_eq_some_iff.mp written)
    exact keepsOwners_of_records (by rw [same])

end RuntimeRegistry

end MoistureLoop
