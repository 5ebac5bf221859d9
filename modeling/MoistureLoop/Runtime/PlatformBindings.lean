import MoistureLoop.Reconciliation.Rest
import MoistureLoop.Runtime.AdmittedZones
import MoistureLoop.Runtime.KeptBindings
import MoistureLoop.Runtime.OneListener

/-! # Controllers and the platforms bound to them

The coordinator of an entry beside its applier and the store.  The entity platforms are set up
with the controllers of one moment, and a reload sets them up again.  While the barrier is clear
the configured zones still have these controllers, in every run in which a configuration is
published without a reload only if all that was planned in between kept the actuators of its
zones. -/

namespace MoistureLoop

/-- The runtime of an entry, with the controllers its platforms were set up with. -/
structure PlatformEntry where
  coordinator : Coordinator
  registry : RuntimeRegistry
  /-- The bindings at the time the platforms were last set up or reloaded. -/
  platform : Option (Dict String (RuntimeControllerBinding Nat)) := none
  /-- The snapshot that the platforms are for and those planned since, the last one first. -/
  planned : List ImmutableEntrySnapshot := []

inductive PlatformLabel where
  | coordinator (label : CoordinatorLabel)
  | registry (label : RegistryLabel)
  /-- The platforms are set up after the first publication. -/
  | platformsSetUp

namespace PlatformEntry

/-- The platforms are set up with the controllers of now. -/
def bindPlatforms (entry : PlatformEntry) : PlatformEntry :=
  { entry with
    platform := some entry.registry.bindings
    planned := if entry.registry.applied.isSome then entry.planned.take 1 else entry.planned }

/-- The applier is through, or gave up a snapshot that is no longer current. -/
def mayReturn (entry : PlatformEntry) : Bool :=
  entry.registry.pass.isNone && entry.coordinator.worker.all fun pass =>
    entry.registry.applied = some pass.target.snapshot || !entry.coordinator.isCurrent pass

/-- The worker calls the applier. -/
def applying (entry : PlatformEntry) : Option PlatformEntry :=
  match entry.coordinator.worker with
  | none => some entry
  | some pass => (entry.registry.step (.begin pass.target.snapshot)).map fun registry =>
    { entry with registry }

def coordinatorStep (entry : PlatformEntry) (label : CoordinatorLabel) : Option PlatformEntry :=
  (entry.coordinator.step label).bind fun coordinator =>
    let stepped := { entry with coordinator }
    match label with
    | .reconciled => if entry.coordinator.worker.isNone then stepped.applying else some stepped
    | .applierReturned _ _ => if entry.mayReturn then stepped.applying else none
    | .applierRaised _ => if entry.registry.pass.isNone then some stepped else none
    | .reloadReturned true => some stepped.bindPlatforms
    | .publicationClosed => (entry.registry.step .stop).map fun registry =>
      { stepped with registry }
    | _ => some stepped

/-- The applier asks its `is_current`; its begin and the stop are the coordinator's. -/
def permits (entry : PlatformEntry) : RegistryLabel → Bool
  | .begin _ | .stop => false
  | .go current => current = entry.coordinator.worker.any entry.coordinator.isCurrent
  | _ => true

def plannedAfter (entry : PlatformEntry) (label : RegistryLabel) (registry : RuntimeRegistry) :
    List ImmutableEntrySnapshot :=
  match label, registry.pass with
  | .plan _ _, some (snapshot, .publishing _) =>
    if entry.coordinator.appliedSnapshot.isSome then snapshot :: entry.planned else [snapshot]
  | _, _ => entry.planned

def registryStep (entry : PlatformEntry) (label : RegistryLabel) : Option PlatformEntry :=
  if entry.permits label then
    (entry.registry.step label).map fun registry =>
      { entry with registry, planned := entry.plannedAfter label registry }
  else none

def step (entry : PlatformEntry) : PlatformLabel → Option PlatformEntry
  | .coordinator label => entry.coordinatorStep label
  | .registry label => entry.registryStep label
  | .platformsSetUp =>
    if entry.coordinator.appliedSnapshot.isSome then some entry.bindPlatforms else none

/-- The coordinator, the applier and the platforms of an entry. -/
def system : LabelledSystem PlatformEntry PlatformLabel := ⟨PlatformEntry.step⟩

/-- While the barrier is clear, the configured zones have the controllers that the platforms
were set up with, or a reload is pending. -/
def ControllersBound (entry : PlatformEntry) : Prop :=
  entry.coordinator.barrier.clear = true → ∀ platform, entry.platform = some platform →
    entry.coordinator.reloadPending = true ∨
    ∀ observed, entry.coordinator.observedSnapshot = some observed →
      ∀ zone ∈ observed.snapshot.zones, ∃ binding,
        entry.registry.bindings.get? zone.subentryId = some binding ∧
        (platform.get? zone.subentryId).map RuntimeControllerBinding.controller =
          some binding.controller

/-- A configuration is published without a reload only if every snapshot planned since the
platforms were set up has its zones with the same actuators, and a reload that succeeds finds
the coordinator as it left it.  The IDs that a plan mints are new. -/
def KeepsPlatforms (entry : PlatformEntry) (label : PlatformLabel) (after : PlatformEntry) :
    Prop :=
  match label with
  | .coordinator (.applierReturned fresh _) => entry.platform.isSome = true →
    ∀ pass, entry.coordinator.worker = some pass →
      entry.coordinator.PublishesUnreloaded pass fresh →
      ∀ zone ∈ pass.target.snapshot.zones, ∀ snapshot ∈ entry.planned,
        snapshot.keepsActuator zone = true
  | .coordinator (.reloadReturned true) => entry.coordinator.isStopping = true ∨
    entry.coordinator.appliedGeneration = entry.coordinator.observedGeneration ∧
      entry.coordinator.failed = false ∧ entry.coordinator.worker = none
  | .registry label => RuntimeRegistry.PlansFresh entry.registry label after.registry
  | _ => True

/-! ## The invariant -/

def Bound (entry : PlatformEntry) (zone : ImmutableZoneSnapshot) : Prop :=
  ∃ controller, entry.registry.KeptFor zone controller ∧
    ∀ platform, entry.platform = some platform →
      (platform.get? zone.subentryId).map RuntimeControllerBinding.controller = some controller

structure Invariant (entry : PlatformEntry) : Prop where
  applies : entry.coordinator.AppliesObserved
  reloads : entry.coordinator.ReloadsApplied
  atRest : entry.coordinator.barrier.clear = true → entry.coordinator.AtRest
  aligned : entry.registry.Aligned
  unbound : entry.registry.Unbound
  stopping : entry.registry.stopping = true → entry.coordinator.isStopping = true
  unloading : entry.registry.unloading ≠ none → entry.registry.stopping = true
  running : entry.coordinator.worker = none → entry.registry.pass = none
  passPlanned : ∀ snapshot position, entry.registry.pass = some (snapshot, position) →
    position.planned = true → entry.planned.head? = some snapshot
  appliedPlanned : ∀ snapshot, entry.registry.applied = some snapshot →
    entry.planned.head? = some snapshot
  rested : entry.coordinator.AtRest → ∀ applied, entry.coordinator.appliedSnapshot = some applied →
    entry.registry.applied = some applied.snapshot
  setUp : entry.platform.isSome = true → entry.coordinator.appliedSnapshot.isSome = true
  /-- What every planned snapshot kept is still bound. -/
  steady : entry.registry.unloading = none → entry.coordinator.appliedSnapshot.isSome = true →
    ∀ zone, (∀ snapshot ∈ entry.planned, snapshot.keepsActuator zone = true) → entry.Bound zone

theorem Bound.of_leaves {entry after : PlatformEntry} {zone : ImmutableZoneSnapshot}
    (bound : entry.Bound zone) (platform : after.platform = entry.platform)
    (bindings : after.registry.bindings = entry.registry.bindings)
    (store : after.registry.store = entry.registry.store) : after.Bound zone := by
  obtain ⟨controller, kept, agrees⟩ := bound
  refine ⟨controller, kept.of_leaves bindings ?_, fun own setUp => agrees own (platform ▸ setUp)⟩
  rw [store]
  exact leavesOwners_refl _

variable {entry after : PlatformEntry}

theorem bindPlatforms_head? : entry.bindPlatforms.planned.head? = entry.planned.head? := by
  unfold bindPlatforms
  simp only
  split
  · simp [List.head?_take]
  · rfl

namespace Invariant

theorem idle (invariant : entry.Invariant) (rest : entry.coordinator.AtRest) :
    entry.registry.pass = none ∧ entry.registry.stopping = false ∧
      entry.registry.unloading = none := by
  have publishing : entry.registry.stopping = false := by
    cases stopped : entry.registry.stopping with
    | false => rfl
    | true =>
      have stopping := invariant.stopping stopped
      rw [rest.publishing] at stopping
      cases stopping
  refine ⟨invariant.running rest.idle, publishing, ?_⟩
  by_contra unloading
  have stopped := invariant.unloading unloading
  rw [publishing] at stopped
  cases stopped

theorem exists_binding (invariant : entry.Invariant) (rest : entry.coordinator.AtRest)
    {observed : SnapshotObject} (current : entry.coordinator.observedSnapshot = some observed)
    {zone : ImmutableZoneSnapshot} (member : zone ∈ observed.snapshot.zones) :
    ∃ binding, entry.registry.bindings.get? zone.subentryId = some binding := by
  have applied := invariant.rested rest observed
    ((invariant.applies.same rest.generation).trans current)
  obtain ⟨-, served⟩ := invariant.aligned.applied observed.snapshot applied
  obtain none' | bound := served.bound zone member
  · cases none'
  · exact Option.isSome_iff_exists.mp bound

/-! ## Platforms -/

/-- What all planned snapshots keep is bound to the platforms as they are set up. -/
theorem bound_bindPlatforms (invariant : entry.Invariant)
    (loaded : entry.registry.unloading = none)
    (published : entry.coordinator.appliedSnapshot.isSome = true) {zone : ImmutableZoneSnapshot}
    (keeps : ∀ snapshot ∈ entry.bindPlatforms.planned, snapshot.keepsActuator zone = true) :
    entry.bindPlatforms.Bound zone := by
  have kept : ∃ controller, entry.registry.KeptFor zone controller := by
    cases applied : entry.registry.applied with
    | none =>
      have same : entry.bindPlatforms.planned = entry.planned := by simp [bindPlatforms, applied]
      obtain ⟨controller, kept, -⟩ := invariant.steady loaded published zone (same ▸ keeps)
      exact ⟨controller, kept⟩
    | some snapshot =>
      have head := invariant.appliedPlanned snapshot applied
      have member : snapshot ∈ entry.bindPlatforms.planned :=
        List.mem_of_mem_head? (bindPlatforms_head?.trans head)
      obtain ⟨other, keeps⟩ := exists_of_keepsActuator (keeps snapshot member)
      exact RuntimeRegistry.exists_keptFor invariant.aligned applied keeps
  obtain ⟨controller, kept⟩ := kept
  refine ⟨controller, kept, fun platform setUp => ?_⟩
  obtain rfl : entry.registry.bindings = platform := Option.some.inj setUp
  obtain ⟨binding, record, found, own, -⟩ := kept.kept
  simp [found, own]

theorem bindPlatforms (invariant : entry.Invariant)
    (published : entry.coordinator.appliedSnapshot.isSome = true) :
    entry.bindPlatforms.Invariant where
  applies := invariant.applies
  reloads := invariant.reloads
  atRest := invariant.atRest
  aligned := invariant.aligned
  unbound := invariant.unbound
  stopping := invariant.stopping
  unloading := invariant.unloading
  running := invariant.running
  passPlanned := fun snapshot position at' planned =>
    bindPlatforms_head?.trans (invariant.passPlanned snapshot position at' planned)
  appliedPlanned := fun snapshot applied =>
    bindPlatforms_head?.trans (invariant.appliedPlanned snapshot applied)
  rested := invariant.rested
  setUp := fun _ => published
  steady := fun loaded _ _ keeps => invariant.bound_bindPlatforms loaded published keeps

theorem controllersBound_bindPlatforms (invariant : entry.Invariant) :
    entry.bindPlatforms.ControllersBound := by
  intro clear platform setUp
  obtain rfl : entry.registry.bindings = platform := Option.some.inj setUp
  refine .inr fun observed current zone member => ?_
  obtain ⟨binding, found⟩ := invariant.exists_binding (invariant.atRest clear) current member
  exact ⟨binding, found, by simp [found]⟩

/-! ## Steps of the applier and the store -/

theorem head?_plannedAfter (invariant : entry.Invariant) {label : RegistryLabel}
    {registry : RuntimeRegistry} (stepped : entry.registry.step label = some registry)
    (moved : entry.registry.Stepped label registry) {snapshot : ImmutableEntrySnapshot}
    {position : PassPosition} (at' : registry.pass = some (snapshot, position))
    (planned : position.planned = true) :
    (entry.plannedAfter label registry).head? = some snapshot := by
  obtain ⟨before, was, origin⟩ := moved.pass snapshot position at'
  obtain reached | ⟨env, saved, rfl⟩ := origin planned
  · have head := invariant.passPlanned snapshot before was reached
    cases label with
    | plan env saved =>
      -- A plan is made where nothing has been planned.
      simp only [RuntimeRegistry.step, was] at stepped
      cases before with
      | planning => cases reached
      | _ => cases stepped
    | _ => exact head
  · have publishing : ∃ conflicts, position = .publishing conflicts := by
      simp only [RuntimeRegistry.step, was] at stepped
      split at stepped
      · obtain rfl := Option.some.inj stepped
        split at at'
        · obtain ⟨-, rfl⟩ := Prod.mk.inj (Option.some.inj at')
          exact ⟨_, rfl⟩
        · cases at'
      · cases stepped
    obtain ⟨conflicts, rfl⟩ := publishing
    simp only [plannedAfter, at']
    split <;> rfl

theorem plannedAfter_of_idle {label : RegistryLabel} {registry : RuntimeRegistry}
    (stepped : entry.registry.step label = some registry) (idle : entry.registry.pass = none) :
    entry.plannedAfter label registry = entry.planned := by
  cases label with
  | plan env saved =>
    simp only [RuntimeRegistry.step, idle] at stepped
    cases stepped
  | _ => rfl

theorem mem_plannedAfter {label : RegistryLabel} {registry : RuntimeRegistry}
    (published : entry.coordinator.appliedSnapshot.isSome = true)
    {snapshot : ImmutableEntrySnapshot} (member : snapshot ∈ entry.planned) :
    snapshot ∈ entry.plannedAfter label registry := by
  unfold plannedAfter
  split
  · rw [if_pos published]
    exact List.mem_cons_of_mem _ member
  · exact member

theorem registryStep_moved {label : RegistryLabel}
    (turned : entry.registryStep label = some after) :
    ∃ registry, entry.registry.step label = some registry ∧
      entry.registry.Stepped label registry ∧
      after = { entry with registry, planned := entry.plannedAfter label registry } := by
  obtain ⟨permitted, made⟩ := Option.ite_none_right_eq_some.mp turned
  obtain ⟨registry, stepped, rfl⟩ := Option.map_eq_some_iff.mp made
  refine ⟨registry, stepped, ?_, rfl⟩
  apply RuntimeRegistry.step_stepped stepped
  · rintro snapshot rfl
    cases permitted
  · rintro rfl
    cases permitted

theorem registryStep (invariant : entry.Invariant) {label : RegistryLabel}
    (turned : entry.registryStep label = some after)
    (fresh : RuntimeRegistry.PlansFresh entry.registry label after.registry) :
    after.Invariant := by
  obtain ⟨registry, stepped, moved, rfl⟩ := registryStep_moved turned
  have passPlanned : ∀ snapshot position, registry.pass = some (snapshot, position) →
      position.planned = true →
      (entry.plannedAfter label registry).head? = some snapshot :=
    fun _ _ => invariant.head?_plannedAfter stepped moved
  refine ⟨invariant.applies, invariant.reloads, invariant.atRest,
    RuntimeRegistry.step_aligned invariant.aligned stepped fresh,
    invariant.unbound.step invariant.aligned stepped, ?_, ?_, ?_, passPlanned, ?_, ?_,
    invariant.setUp, ?_⟩
  · intro stopping
    exact invariant.stopping (moved.stopping ▸ stopping)
  · intro unloading
    have unloading : registry.unloading ≠ none := unloading
    show registry.stopping = true
    rw [moved.stopping]
    obtain same | ⟨-, stopping | unloading⟩ := moved.unloading
    · exact invariant.unloading (same ▸ unloading)
    · exact stopping
    · exact invariant.unloading unloading
  · intro free
    show registry.pass = none
    cases pass : registry.pass with
    | none => rfl
    | some current =>
      obtain ⟨position, at', -⟩ := moved.pass current.1 current.2 pass
      rw [invariant.running free] at at'
      cases at'
  · intro snapshot applied
    show (entry.plannedAfter label registry).head? = some snapshot
    obtain applied | ⟨position, at', planned⟩ := moved.applied snapshot applied
    · rw [plannedAfter_of_idle stepped (invariant.aligned.applied snapshot applied).1]
      exact invariant.appliedPlanned snapshot applied
    · cases label with
      | plan env saved =>
        simp only [RuntimeRegistry.step, at'] at stepped
        cases position with
        | planning => cases planned
        | _ => cases stepped
      | _ => exact invariant.passPlanned snapshot position at' planned
  · intro rest applied published
    have still := invariant.idle rest
    exact (moved.idle still.1 still.2.1 still.2.2).1.trans
      (invariant.rested rest applied published)
  · intro loaded published zone keeps
    have loaded : registry.unloading = none := loaded
    have published : entry.coordinator.appliedSnapshot.isSome = true := published
    have loaded' : entry.registry.unloading = none := by
      obtain same | ⟨unloading, -⟩ := moved.unloading
      · exact same ▸ loaded
      · exact absurd loaded unloading
    have kept : ∀ snapshot ∈ entry.planned, snapshot.keepsActuator zone = true :=
      fun snapshot member => keeps snapshot (mem_plannedAfter published member)
    obtain ⟨controller, bound, agrees⟩ := invariant.steady loaded' published zone kept
    refine ⟨controller, ?_, agrees⟩
    apply bound.step invariant.aligned invariant.unbound stepped fresh loaded'
    · intro snapshot position at' planned
      exact kept snapshot
        (List.mem_of_mem_head? (invariant.passPlanned snapshot position at' planned))
    · intro snapshot position at' planned
      exact keeps snapshot (List.mem_of_mem_head? (passPlanned snapshot position at' planned))

/-- At rest the applier and the store leave the bindings. -/
theorem controllersBound_registryStep (invariant : entry.Invariant) (bound : entry.ControllersBound)
    {label : RegistryLabel} (turned : entry.registryStep label = some after) :
    after.ControllersBound := by
  obtain ⟨registry, stepped, moved, rfl⟩ := registryStep_moved turned
  intro clear platform setUp
  have still := invariant.idle (invariant.atRest clear)
  have same := (moved.idle still.1 still.2.1 still.2.2).2
  refine (bound clear platform setUp).imp id fun bound observed current zone member => ?_
  show ∃ binding, registry.bindings.get? zone.subentryId = some binding ∧ _
  rw [same]
  exact bound observed current zone member

end Invariant

/-! ## Steps of the coordinator -/

inductive CoordinatorMoved (entry : PlatformEntry) (label : CoordinatorLabel)
    (next : Coordinator) : PlatformEntry → Prop where
  /-- The worker begins a pass. -/
  | began {pass : SnapshotPass} {registry : RuntimeRegistry} :
      (∀ fresh rebuilt, label = .applierReturned fresh rebuilt → entry.mayReturn = true) →
      next.worker = some pass →
      entry.registry.step (.begin pass.target.snapshot) = some registry →
      CoordinatorMoved entry label next { entry with coordinator := next, registry }
  | reloaded : label = .reloadReturned true →
      CoordinatorMoved entry label next
        ({ entry with coordinator := next } : PlatformEntry).bindPlatforms
  | closed {registry : RuntimeRegistry} : next.isStopping = true →
      label = .publicationClosed → entry.registry.step .stop = some registry →
      CoordinatorMoved entry label next { entry with coordinator := next, registry }
  | other : (∀ fresh rebuilt, label = .applierReturned fresh rebuilt → entry.mayReturn = true) →
      (next.worker = none → entry.registry.pass = none ∨ entry.coordinator.worker = none) →
      label ≠ .reloadReturned true →
      CoordinatorMoved entry label next { entry with coordinator := next }

theorem applying_moved {label : CoordinatorLabel} {next : Coordinator}
    (may : ∀ fresh rebuilt, label = .applierReturned fresh rebuilt → entry.mayReturn = true)
    (idle : entry.registry.pass = none ∨ entry.coordinator.worker = none)
    (reloads : label ≠ .reloadReturned true)
    (applied : ({ entry with coordinator := next } : PlatformEntry).applying = some after) :
    CoordinatorMoved entry label next after := by
  unfold applying at applied
  split at applied
  · obtain rfl := Option.some.inj applied
    exact .other may (fun _ => idle) reloads
  · rename_i pass working
    obtain ⟨registry, begun, rfl⟩ := Option.map_eq_some_iff.mp applied
    exact .began may working begun

theorem coordinatorStep_moved {label : CoordinatorLabel}
    (turned : entry.coordinatorStep label = some after) :
    ∃ next, entry.coordinator.step label = some next ∧
      CoordinatorMoved entry label next after := by
  obtain ⟨next, coordinated, turned⟩ := Option.bind_eq_some_iff.mp turned
  refine ⟨next, coordinated, ?_⟩
  have kept : next.worker = entry.coordinator.worker → next.worker = none →
      entry.registry.pass = none ∨ entry.coordinator.worker = none :=
    fun working idle => .inr (working ▸ idle)
  have moved := Coordinator.worker_of_moved (Coordinator.step_moved coordinated)
  cases label with
  | reconciled =>
    by_cases idle : entry.coordinator.worker = none
    · simp only [idle, Option.isNone_none, if_true] at turned
      exact applying_moved (by simp) (.inr idle) (by simp) turned
    · have working : entry.coordinator.worker.isNone = false :=
        Bool.eq_false_iff.mpr fun free => idle (Option.isNone_iff_eq_none.mp free)
      simp only [working, Bool.false_eq_true, if_false] at turned
      obtain rfl := Option.some.inj turned
      refine .other (by simp) (kept ?_) (by simp)
      simpa [idle] using moved
  | applierReturned fresh rebuilt =>
    obtain ⟨may, applied⟩ := Option.ite_none_right_eq_some.mp turned
    have idle : entry.registry.pass = none := by
      simp only [mayReturn, Bool.and_eq_true, Option.isNone_iff_eq_none] at may
      exact may.1
    exact applying_moved (fun _ _ _ => may) (.inl idle) (by simp) applied
  | applierRaised error =>
    obtain ⟨idle, turned⟩ := Option.ite_none_right_eq_some.mp turned
    obtain rfl := Option.some.inj turned
    exact .other (by simp) (fun _ => .inl (Option.isNone_iff_eq_none.mp idle)) (by simp)
  | reloadReturned reloaded =>
    cases reloaded with
    | true =>
      obtain rfl := Option.some.inj turned
      exact .reloaded rfl
    | false =>
      obtain rfl := Option.some.inj turned
      exact .other (by simp) (kept (by simpa using moved)) (by simp)
  | publicationClosed =>
    obtain ⟨registry, stopped, rfl⟩ := Option.map_eq_some_iff.mp turned
    obtain rfl := Option.some.inj coordinated
    exact .closed entry.coordinator.closePublicationNow_frame.2.2.2.2.2 rfl stopped
  | notified | called | setReady | reloadBegun | reloadStarted | reloadRaised | reloadCancelled =>
    obtain rfl := Option.some.inj turned
    exact .other (by simp) (kept (by simpa using moved)) (by simp)

namespace Invariant

variable {label : CoordinatorLabel} {next : Coordinator}

theorem published_of_step (invariant : entry.Invariant)
    (coordinated : entry.coordinator.step label = some next) (setUp : entry.platform.isSome = true) :
    next.appliedSnapshot.isSome = true := by
  obtain same | ⟨_, _, _, _, _, _, applied⟩ :=
    Coordinator.appliedSnapshot_of_moved (Coordinator.step_moved coordinated)
  · rw [same]
    exact invariant.setUp setUp
  · rw [applied]
    rfl

/-- A pass that is published went through. -/
theorem applied_of_mayReturn {pass : SnapshotPass} (may : entry.mayReturn = true)
    (running : entry.coordinator.worker = some pass)
    (current : entry.coordinator.isCurrent pass = true) :
    entry.registry.applied = some pass.target.snapshot := by
  simp only [mayReturn, running, Option.all_some, current, Bool.not_true, Bool.or_false,
    Bool.and_eq_true, decide_eq_true_eq] at may
  exact may.2

theorem rested_of_step (invariant : entry.Invariant)
    (coordinated : entry.coordinator.step label = some next)
    (may : ∀ fresh rebuilt, label = .applierReturned fresh rebuilt → entry.mayReturn = true)
    (rest : next.AtRest) {applied : SnapshotObject}
    (found : next.appliedSnapshot = some applied) :
    entry.registry.applied = some applied.snapshot := by
  cases Coordinator.comesToRest invariant.applies coordinated rest with
  | kept before _ same => exact invariant.rested before applied (same ▸ found)
  | reloaded before => exact invariant.rested before applied found
  | @published pass fresh unchanged rebuilt running returned current =>
    have target := (Coordinator.publish_outcome entry.coordinator pass).appliedSnapshot
    have found' : (entry.coordinator.publish pass).appliedSnapshot = some applied := found
    obtain rfl := Option.some.inj (target.symm.trans found')
    exact applied_of_mayReturn (may _ _ returned) running current

/-- The first publication finds the controllers of its zones, and a later one those of the
platforms. -/
theorem steady_of_step (invariant : entry.Invariant)
    (coordinated : entry.coordinator.step label = some next)
    (may : ∀ fresh rebuilt, label = .applierReturned fresh rebuilt → entry.mayReturn = true)
    (loaded : entry.registry.unloading = none) (published : next.appliedSnapshot.isSome = true)
    {zone : ImmutableZoneSnapshot}
    (keeps : ∀ snapshot ∈ entry.planned, snapshot.keepsActuator zone = true) :
    entry.Bound zone := by
  by_cases before : entry.coordinator.appliedSnapshot.isSome = true
  · exact invariant.steady loaded before zone keeps
  obtain same | ⟨pass, fresh, rebuilt, running, returned, current, -⟩ :=
    Coordinator.appliedSnapshot_of_moved (Coordinator.step_moved coordinated)
  · rw [same] at published
    exact absurd published before
  · have applied := applied_of_mayReturn (may _ _ returned) running current
    have member := List.mem_of_mem_head? (invariant.appliedPlanned _ applied)
    obtain ⟨other, keeps⟩ := exists_of_keepsActuator (keeps _ member)
    obtain ⟨controller, kept⟩ := RuntimeRegistry.exists_keptFor invariant.aligned applied keeps
    refine ⟨controller, kept, fun platform setUp => ?_⟩
    exact absurd (invariant.setUp (by simp [setUp])) before

/-- The barrier opens over platforms that still have their controllers. -/
theorem controllersBound_of_step (invariant : entry.Invariant) (bound : entry.ControllersBound)
    (coordinated : entry.coordinator.step label = some next)
    (keeps : entry.KeepsPlatforms (.coordinator label) after)
    (reloads : label ≠ .reloadReturned true) :
    ({ entry with coordinator := next } : PlatformEntry).ControllersBound := by
  intro clear platform setUp
  have setUp : entry.platform = some platform := setUp
  have clear : next.barrier.clear = true := clear
  have rest := Coordinator.atRest_of_opened invariant.atRest coordinated
    (fun reloaded => absurd reloaded reloads) clear
  show next.reloadPending = true ∨ ∀ observed, next.observedSnapshot = some observed → _
  cases Coordinator.comesToRest invariant.applies coordinated rest with
  | kept before barrier applied observed pending =>
    rw [pending, observed]
    exact bound (barrier ▸ clear) platform setUp
  | reloaded before reloaded => exact absurd reloaded reloads
  | @published pass fresh unchanged rebuilt running returned current read same =>
    subst returned
    have outcome := Coordinator.publish_outcome entry.coordinator pass
    obtain ⟨publishing, -, target⟩ := Coordinator.isCurrent_iff.mp current
    have loaded : entry.registry.unloading = none := by
      by_contra unloading
      have stopped := invariant.stopping (invariant.unloading unloading)
      rw [publishing] at stopped
      cases stopped
    have clear : (entry.coordinator.publish pass).barrier.clear = true := clear
    cases outcome.kind with
    | failed _ closed =>
      rw [closed] at clear
      cases clear
    | queued closed =>
      rw [closed] at clear
      cases clear
    | opened unfailed unneeded _ _ pending =>
      by_cases settled :
          (entry.coordinator.reloadTask.isSome && entry.coordinator.reloadPending) = true
      · exact .inl (pending.trans settled)
      refine .inr fun observed seen zone member => ?_
      have seen : (entry.coordinator.publish pass).observedSnapshot = some observed := seen
      rw [outcome.observedSnapshot, target] at seen
      obtain rfl := Option.some.inj seen
      have unreloaded : entry.coordinator.PublishesUnreloaded pass fresh :=
        ⟨current, ⟨unchanged, read, same⟩, unfailed, unneeded, Bool.eq_false_iff.mpr settled⟩
      have isSetUp : entry.platform.isSome = true := Option.isSome_of_eq_some setUp
      have kept := keeps isSetUp pass running unreloaded zone member
      have published := invariant.setUp isSetUp
      obtain ⟨controller, kept, agrees⟩ := invariant.steady loaded published zone kept
      obtain ⟨binding, record, found, own, -⟩ := kept.kept
      refine ⟨binding, found, ?_⟩
      rw [own]
      exact agrees platform setUp

theorem coordinated (invariant : entry.Invariant)
    (coordinated : entry.coordinator.step label = some next)
    (may : ∀ fresh rebuilt, label = .applierReturned fresh rebuilt → entry.mayReturn = true)
    (idle : next.worker = none → entry.registry.pass = none ∨ entry.coordinator.worker = none)
    (looks : label = .reloadReturned true → entry.coordinator.isStopping = true ∨
      entry.coordinator.appliedGeneration = entry.coordinator.observedGeneration ∧
        entry.coordinator.failed = false ∧ entry.coordinator.worker = none) :
    ({ entry with coordinator := next } : PlatformEntry).Invariant where
  applies := invariant.applies.step coordinated
  reloads := invariant.reloads.step coordinated
  atRest := Coordinator.atRest_of_opened invariant.atRest coordinated looks
  aligned := invariant.aligned
  unbound := invariant.unbound
  stopping := fun stopping =>
    Coordinator.isStopping_of_moved (Coordinator.step_moved coordinated)
      (invariant.stopping stopping)
  unloading := invariant.unloading
  running := fun free => (idle free).elim id invariant.running
  passPlanned := invariant.passPlanned
  appliedPlanned := invariant.appliedPlanned
  rested := fun rest _ found => invariant.rested_of_step coordinated may rest found
  setUp := invariant.published_of_step coordinated
  steady := fun loaded published _ keeps =>
    invariant.steady_of_step coordinated may loaded published keeps

/-- A worker that begins a pass is not at rest. -/
theorem began (invariant : entry.Invariant)
    (coordinated : entry.coordinator.step label = some next)
    (may : ∀ fresh rebuilt, label = .applierReturned fresh rebuilt → entry.mayReturn = true)
    (looks : label = .reloadReturned true → entry.coordinator.isStopping = true ∨
      entry.coordinator.appliedGeneration = entry.coordinator.observedGeneration ∧
        entry.coordinator.failed = false ∧ entry.coordinator.worker = none)
    {pass : SnapshotPass} {registry : RuntimeRegistry} (working : next.worker = some pass)
    (begun : entry.registry.step (.begin pass.target.snapshot) = some registry) :
    ({ entry with coordinator := next, registry } : PlatformEntry).Invariant := by
  have aligned := RuntimeRegistry.step_aligned invariant.aligned begun fun _ _ _ same => by cases same
  have unbound := invariant.unbound.step invariant.aligned begun
  obtain ⟨-, same⟩ := Option.ite_none_right_eq_some.mp begun
  obtain rfl := Option.some.inj same
  refine ⟨invariant.applies.step coordinated, invariant.reloads.step coordinated,
    Coordinator.atRest_of_opened invariant.atRest coordinated looks, aligned, unbound, ?_,
    invariant.unloading, ?_, ?_, ?_, ?_, invariant.published_of_step coordinated, ?_⟩
  · intro stopping
    exact Coordinator.isStopping_of_moved (Coordinator.step_moved coordinated)
      (invariant.stopping stopping)
  · intro free
    have free : next.worker = none := free
    rw [working] at free
    cases free
  · intro snapshot position at' planned
    obtain ⟨-, rfl⟩ := Prod.mk.inj (Option.some.inj at')
    cases planned
  · intro snapshot applied
    cases applied
  · intro rest
    have free : next.worker = none := rest.idle
    rw [working] at free
    cases free
  · intro loaded published zone keeps
    exact (invariant.steady_of_step coordinated may loaded published keeps).of_leaves rfl rfl rfl

theorem closed (invariant : entry.Invariant) (stopped : entry.coordinator.isStopping = true)
    {registry : RuntimeRegistry} (stop : entry.registry.step .stop = some registry) :
    ({ entry with registry } : PlatformEntry).Invariant := by
  have aligned := RuntimeRegistry.step_aligned invariant.aligned stop fun _ _ _ same => by cases same
  have unbound := invariant.unbound.step invariant.aligned stop
  obtain rfl := Option.some.inj stop
  exact ⟨invariant.applies, invariant.reloads, invariant.atRest, aligned, unbound,
    fun _ => stopped, fun _ => rfl, invariant.running, invariant.passPlanned,
    invariant.appliedPlanned, invariant.rested, invariant.setUp,
    fun loaded published zone keeps =>
      (invariant.steady loaded published zone keeps).of_leaves rfl rfl rfl⟩

theorem coordinatorStep (invariant : entry.Invariant) (bound : entry.ControllersBound)
    (turned : entry.coordinatorStep label = some after)
    (keeps : entry.KeepsPlatforms (.coordinator label) after) :
    after.Invariant ∧ after.ControllersBound := by
  obtain ⟨next, coordinated, moved⟩ := coordinatorStep_moved turned
  have looks : label = .reloadReturned true → entry.coordinator.isStopping = true ∨
      entry.coordinator.appliedGeneration = entry.coordinator.observedGeneration ∧
        entry.coordinator.failed = false ∧ entry.coordinator.worker = none := by
    rintro rfl
    exact keeps
  cases moved with
  | @began pass registry may working begun =>
    have begins := invariant.began coordinated may looks working begun
    refine ⟨begins, fun clear => ?_⟩
    have free : next.worker = none := (begins.atRest clear).idle
    rw [working] at free
    cases free
  | reloaded reloaded =>
    subst reloaded
    have same : next.worker = entry.coordinator.worker := by
      simpa using Coordinator.worker_of_moved (Coordinator.step_moved coordinated)
    have after := invariant.coordinated coordinated (by simp) (fun free => .inr (same ▸ free)) looks
    refine ⟨after.bindPlatforms ?_, after.controllersBound_bindPlatforms⟩
    obtain ⟨task, reloading, rfl⟩ := Option.map_eq_some_iff.mp coordinated
    exact invariant.reloads (Option.isSome_of_eq_some (Option.filter_eq_some_iff.mp reloading).1)
  | closed stopped closed stop =>
    subst closed
    have same : next.worker = entry.coordinator.worker := by
      simpa using Coordinator.worker_of_moved (Coordinator.step_moved coordinated)
    have after := invariant.coordinated coordinated (by simp) (fun free => .inr (same ▸ free)) looks
    refine ⟨after.closed stopped stop, fun clear => ?_⟩
    have publishing := (after.atRest clear).publishing
    have stopped' : next.isStopping = false := publishing
    rw [stopped] at stopped'
    cases stopped'
  | other may idle reloads =>
    exact ⟨invariant.coordinated coordinated may idle looks,
      invariant.controllersBound_of_step bound coordinated keeps reloads⟩

end Invariant

theorem Invariant.step (invariant : entry.Invariant) (bound : entry.ControllersBound)
    {label : PlatformLabel} (stepped : entry.step label = some after)
    (keeps : entry.KeepsPlatforms label after) : after.Invariant ∧ after.ControllersBound := by
  cases label with
  | coordinator label => exact invariant.coordinatorStep bound stepped keeps
  | registry label =>
    exact ⟨invariant.registryStep stepped keeps,
      invariant.controllersBound_registryStep bound stepped⟩
  | platformsSetUp =>
    obtain ⟨published, same⟩ := Option.ite_none_right_eq_some.mp stepped
    obtain rfl := Option.some.inj same
    exact ⟨invariant.bindPlatforms published, invariant.controllersBound_bindPlatforms⟩

/-- The entry before its first configuration. -/
def initial (store : StoreData) (reloadEntry : Bool) : PlatformEntry where
  coordinator := initialCoordinator reloadEntry
  registry := { store }

theorem invariant_initial (store : StoreData) (reloadEntry : Bool) :
    (initial store reloadEntry).Invariant where
  applies := ⟨le_rfl, fun _ => rfl⟩
  reloads := by
    intro running
    cases running
  atRest := fun _ => ⟨rfl, rfl, rfl, rfl⟩
  aligned := RuntimeRegistry.aligned_fresh store
  unbound := .of_pass rfl
  stopping := by
    intro stopping
    cases stopping
  unloading := fun unloading => absurd rfl unloading
  running := fun _ => rfl
  passPlanned := by
    intro snapshot position at'
    cases at'
  appliedPlanned := by
    intro snapshot applied
    cases applied
  rested := by
    intro _ applied found
    cases found
  setUp := by
    intro setUp
    cases setUp
  steady := by
    intro _ published
    cases published

/-- The platforms keep the controllers of the configured zones. -/
theorem controllersBound_of_run {store : StoreData} {reloadEntry : Bool}
    (ran : system.Run KeepsPlatforms (initial store reloadEntry) entry) :
    entry.ControllersBound := by
  have initially : (initial store reloadEntry).Invariant ∧
      (initial store reloadEntry).ControllersBound := by
    refine ⟨invariant_initial store reloadEntry, fun _ platform setUp => ?_⟩
    cases setUp
  have kept : entry.Invariant ∧ entry.ControllersBound := by
    apply ran.preserves initially
    intro state label next held stepped keeps
    exact held.1.step held.2 stepped keeps
  exact kept.2

/-! ## A bed that is configured back -/

def bedConfigured (generation : Nat) (registryEntryId actuator fingerprint : String) :
    SnapshotObject where
  ref := generation
  snapshot :=
    { observedGeneration := generation
      entrySnapshotFingerprint := "snapshot of " ++ fingerprint
      zones := [{ sampleZone registryEntryId actuator with configFingerprint := fingerprint }]
      sorted := by simp }

def mintingEnv (name : String) : PlanEnv :=
  { RuntimeRegistry.replacingEnv with
    mint := fun subentryId => ⟨name ++ subentryId, "lineage " ++ name, "history " ++ name⟩ }

/-- A pass with its plan, up to a later await. -/
def bedPlanned (name : String) (before after : Nat) : List PlatformLabel :=
  List.replicate before (.registry (.go true)) ++
    .registry (.plan (mintingEnv name) true) :: List.replicate after (.registry (.go true))

/-- The pass goes through and returns. -/
def bedApplied (turns : Nat) (configured : SnapshotObject) : List PlatformLabel :=
  .registry (.refresh RuntimeRegistry.replacingEnv.registry
      RuntimeRegistry.replacingEnv.recordAssessment true) ::
    List.replicate turns (.registry (.go true)) ++
    [.coordinator (.applierReturned (.ok configured.snapshot) (.ok configured))]

/-- A newer configuration is observed, and the pass over the older one gives up. -/
def bedSuperseded (newer : SnapshotObject) : List PlatformLabel :=
  [.coordinator (.notified (.ok newer)), .registry (.go false),
    .coordinator (.applierReturned (.ok newer.snapshot) (.ok newer))]

def bedSetUp : List PlatformLabel :=
  let drip := bedConfigured 1 "uuid-a" "switch.a" "drip"
  let observed : List PlatformLabel :=
    [.coordinator .setReady, .coordinator (.notified (.ok drip)), .coordinator .reconciled]
  observed ++ bedPlanned "first " 3 10 ++ bedApplied 2 drip ++ [.platformsSetUp]

/-- Another configuration of the bed is planned, and then its first one is back. -/
def bedBack (registryEntryId actuator fingerprint : String) (turns back retired : Nat) :
    List PlatformLabel :=
  let other := bedConfigured 2 registryEntryId actuator fingerprint
  let drip := bedConfigured 3 "uuid-a" "switch.a" "drip"
  let observed : List PlatformLabel :=
    [.coordinator (.notified (.ok other)), .coordinator .reconciled]
  bedSetUp ++ observed ++ bedPlanned "second " 4 turns ++ bedSuperseded drip ++
    bedPlanned "third " 4 back ++ bedApplied retired drip

/-- `KeepsPlatforms`, decided for runs without a reload. -/
def keepsPlatformsCheck (entry : PlatformEntry) : PlatformLabel → Bool
  | .coordinator (.applierReturned _ _) => entry.platform.isNone ||
    entry.coordinator.worker.all fun pass => pass.target.snapshot.zones.all fun zone =>
      entry.planned.all fun snapshot => snapshot.keepsActuator zone
  | .coordinator (.reloadReturned true) => false
  | .registry label => RuntimeRegistry.plansFreshCheck entry.registry label
  | _ => true

theorem keepsPlatforms_of_check {label : PlatformLabel}
    (checked : entry.keepsPlatformsCheck label = true) : entry.KeepsPlatforms label after := by
  cases label with
  | coordinator label =>
    cases label with
    | applierReturned fresh rebuilt =>
      intro setUp pass working _ zone member snapshot planned
      have checked : (entry.platform.isNone || entry.coordinator.worker.all fun pass =>
        pass.target.snapshot.zones.all fun zone =>
          entry.planned.all fun snapshot => snapshot.keepsActuator zone) = true := checked
      rw [working, Option.all_some, Bool.or_eq_true] at checked
      obtain unset | keeps := checked
      · rw [Option.isNone_iff_eq_none.mp unset] at setUp
        cases setUp
      · exact List.all_eq_true.mp (List.all_eq_true.mp keeps zone member) snapshot planned
    | reloadReturned reloaded =>
      cases reloaded with
      | true => cases checked
      | false => trivial
    | _ => trivial
  | registry label =>
    have fresh : RuntimeRegistry.PlansFresh entry.registry label after.registry :=
      RuntimeRegistry.plansFresh_of_check checked
    exact fresh
  | platformsSetUp => trivial

/-- The bed changes its fingerprint but not its switch, and is configured back before that is
published: its platforms and its controller are still those of the start. -/
theorem controllersBound_of_run_back : ∃ entry,
    system.Run KeepsPlatforms (initial flowingStore true) entry ∧
      entry.coordinator.barrier.clear = true ∧ entry.planned.length = 3 ∧
      entry.registry.bound? "bed" = some ("record-a", 0) ∧
      entry.platform.isSome = true ∧ entry.ControllersBound := by
  obtain ⟨entry, ran, outcome⟩ := (Option.any_eq_true _ _).mp
    (show (system.runWhile (fun entry label _ => entry.keepsPlatformsCheck label)
      (initial flowingStore true) (bedBack "uuid-a" "switch.a" "wet" 4 8 2)).any (fun entry =>
        decide (entry.coordinator.barrier.clear = true ∧ entry.planned.length = 3 ∧
          entry.registry.bound? "bed" = some ("record-a", 0) ∧
          entry.platform.isSome = true)) = true by decide +kernel)
  have reached : system.Run KeepsPlatforms (initial flowingStore true) entry :=
    LabelledSystem.Run.of_runWhile (fun _ _ _ => keepsPlatforms_of_check) ran
  obtain ⟨clear, planned, bound, setUp⟩ := of_decide_eq_true outcome
  exact ⟨entry, reached, clear, planned, bound, setUp, controllersBound_of_run reached⟩

/-- The plans of a run mint new IDs. -/
def MintsNew (entry : PlatformEntry) (label : PlatformLabel) (after : PlatformEntry) : Prop :=
  ∀ plan, label = .registry plan → RuntimeRegistry.PlansFresh entry.registry plan after.registry

/-- The bed gets another switch, and its first one again before that is published: it has a new
controller, and the platforms still have the old one. -/
theorem not_controllersBound_back : ¬ ∀ entry : PlatformEntry,
    system.Run MintsNew (initial flowingStore true) entry → entry.ControllersBound := by
  intro bound
  obtain ⟨entry, ran, outcome⟩ := (Option.any_eq_true _ _).mp
    (show (system.runWhile (fun entry label _ => match label with
        | .registry plan => RuntimeRegistry.plansFreshCheck entry.registry plan
        | _ => true)
      (initial flowingStore true) (bedBack "uuid-b" "switch.b" "sprinkler" 7 14 3)).any (fun entry =>
        decide (entry.coordinator.barrier.clear = true ∧ entry.coordinator.reloadPending = false ∧
          entry.coordinator.observedSnapshot =
            some (bedConfigured 3 "uuid-a" "switch.a" "drip") ∧
          entry.registry.bound? "bed" = some ("record-a", 2)) &&
        entry.platform.any fun platform =>
          (platform.get? "bed").map RuntimeControllerBinding.controller = some 0) = true by
      decide +kernel)
  have reached : system.Run MintsNew (initial flowingStore true) entry := by
    apply LabelledSystem.Run.of_runWhile _ ran
    rintro before label after checked plan rfl
    exact RuntimeRegistry.plansFresh_of_check checked
  obtain ⟨now, setUp⟩ := Bool.and_eq_true _ _ |>.mp outcome
  obtain ⟨clear, settled, observed, now⟩ := of_decide_eq_true now
  obtain ⟨platform, setUp, before⟩ := (Option.any_eq_true _ _).mp setUp
  obtain pending | same := bound entry reached clear platform setUp
  · rw [settled] at pending
    cases pending
  · obtain ⟨binding, found, kept⟩ := same _ observed _ (List.mem_singleton.mpr rfl)
    have found : entry.registry.bindings.get? "bed" = some binding := found
    have kept : (platform.get? "bed").map RuntimeControllerBinding.controller =
      some binding.controller := kept
    have now : binding.controller = 2 := by
      simp only [RuntimeRegistry.bound?, found, Option.map_some, Option.some.injEq,
        Prod.mk.injEq] at now
      exact now.2
    rw [of_decide_eq_true before, now] at kept
    cases kept

end PlatformEntry

end MoistureLoop
