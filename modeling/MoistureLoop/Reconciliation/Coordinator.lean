import MoistureLoop.Foundations.Guarded
import MoistureLoop.Runtime.Snapshot
import MoistureLoop.SlotManager

/-! # The reconciliation coordinator

`ConfigurationReconciliationCoordinator` as a labelled system.  A label is what happens
between two suspension points of the event loop: a notification, a call of `async_reconcile`
that gets its turn, the return of the snapshot applier to the worker, a turn of the reload
task, or the end of publication.  The applier and the reload are the environment's; what
they and the snapshot builder answer is part of the label. -/

namespace MoistureLoop

/-- An object that the snapshot builder returned: `is` compares these. -/
structure SnapshotObject where
  ref : Nat
  snapshot : ImmutableEntrySnapshot
  deriving DecidableEq

/-- `stable_batch_requires_reload`: a zone of the target is new or has another fingerprint. -/
def stableBatchRequiresReload (platform : Option ImmutableEntrySnapshot)
    (target : ImmutableEntrySnapshot) : Bool :=
  match platform with
  | none => false
  | some platform => target.zones.any fun zone =>
    match platform.bySubentryId zone.subentryId with
    | none => true
    | some previous => previous.configFingerprint ≠ zone.configFingerprint

/-- The keyword arguments of `set_reconciliation_state_now`: `none` keeps a flag. -/
def ReconciliationBarrier.update (barrier : ReconciliationBarrier)
    (dirty reconciling failed : Option Bool) : ReconciliationBarrier where
  dirty := dirty.getD barrier.dirty
  reconciling := reconciling.getD barrier.reconciling
  failed := failed.getD barrier.failed

/-- What the worker is applying while it waits for the applier. -/
structure SnapshotPass where
  generation : Nat
  target : SnapshotObject
  deriving DecidableEq

/-- How far a reload task has come; one that is cancelled before it starts never runs. -/
inductive ReloadPhase where
  | created | reloading | abandoned
  deriving DecidableEq, Repr

structure ReloadTask where
  generation : Nat
  fingerprint : String
  phase : ReloadPhase
  deriving DecidableEq, Repr

/-- The coordinator, the barrier of its SlotManager, and the callers of `async_reconcile`. -/
structure Coordinator where
  /-- `_reload_entry is not None`. -/
  reloadEntry : Bool
  ready : Bool := false
  worker : Option SnapshotPass := none
  reloadHandle : Bool := false
  reloadTask : Option ReloadTask := none
  platformSnapshot : Option SnapshotObject := none
  reloadFailedFingerprint : Option String := none
  publicationAllowed : Bool := true
  stopping : Bool := false
  observationError : Option String := none
  observedGeneration : Nat := 0
  appliedGeneration : Nat := 0
  observedSnapshot : Option SnapshotObject := none
  appliedSnapshot : Option SnapshotObject := none
  dirty : Bool := false
  reconciling : Bool := false
  failed : Bool := false
  supersededCount : Nat := 0
  lastError : Option String := none
  reloadPending : Bool := false
  reloadGeneration : Option Nat := none
  reloadSnapshotFingerprint : Option String := none
  reloadCount : Nat := 0
  barrier : ReconciliationBarrier := {}
  /-- Calls of `async_reconcile` that have not looked at the worker yet. -/
  calls : Nat := 0
  /-- Calls that wait for the worker. -/
  joined : Nat := 0
  /-- The generation whose observation, application or reload the last failure is about. -/
  failedGeneration : Option Nat := none

namespace Coordinator

/-- The property `stopping`. -/
def isStopping (coordinator : Coordinator) : Bool :=
  coordinator.stopping || !coordinator.publicationAllowed

/-- `is_current` of a pass. -/
def isCurrent (coordinator : Coordinator) (pass : SnapshotPass) : Bool :=
  coordinator.publicationAllowed && !coordinator.stopping &&
    coordinator.observedGeneration = pass.generation &&
    coordinator.observedSnapshot = some pass.target

/-- `_fail`; the failure is about `generation`. -/
def fail (coordinator : Coordinator) (generation : Nat) (error : String) : Coordinator :=
  { coordinator with
    dirty := true
    reconciling := false
    failed := true
    lastError := some error
    failedGeneration := some generation
    barrier := coordinator.barrier.update (some true) (some false) (some true) }

/-- `observe_current`. -/
def observeCurrent (coordinator : Coordinator) (built : Except String SnapshotObject) :
    Coordinator :=
  let failed := built.toOption.isNone
  { coordinator with
    observedGeneration := coordinator.observedGeneration + 1
    observedSnapshot := built.toOption
    observationError := match built with
      | .ok _ => none
      | .error error => some error
    dirty := true
    failed
    barrier := coordinator.barrier.update (some true) none (some failed) }

/-- `_cancel_pending_reload`: a reload that has begun stays pending. -/
def cancelPendingReload (coordinator : Coordinator) : Coordinator :=
  let cancelled := { coordinator with reloadHandle := false }
  if coordinator.reloadTask.isNone then
    { cancelled with
      reloadPending := false
      reloadGeneration := none
      reloadSnapshotFingerprint := none }
  else cancelled

/-- `_queue_reload`. -/
def queueReload (coordinator : Coordinator) (target : ImmutableEntrySnapshot) : Coordinator :=
  { coordinator with
    reloadPending := true
    reloadGeneration := some target.observedGeneration
    reloadSnapshotFingerprint := some target.entrySnapshotFingerprint
    barrier := coordinator.barrier.update (some true) (some false) (some false)
    reloadHandle := coordinator.reloadHandle || coordinator.reloadTask.isNone }

/-! ## The worker -/

/-- The worker returns, and with it the calls that joined it. -/
def finishWorker (coordinator : Coordinator) : Coordinator :=
  { coordinator with worker := none, joined := 0 }

/-- The loop of `_run_latest_loop` up to the call of the applier. -/
def beginPass (coordinator : Coordinator) : Coordinator :=
  if !coordinator.publicationAllowed || coordinator.stopping then coordinator.finishWorker
  else match coordinator.observedSnapshot, coordinator.observationError with
    | some target, none =>
      { coordinator with
        worker := some ⟨coordinator.observedGeneration, target⟩
        reconciling := true
        failed := false
        barrier := coordinator.barrier.update (some true) (some true) (some false) }
    | _, error =>
      (coordinator.fail coordinator.observedGeneration
        (error.getD "ReconciliationError: missing snapshot")).finishWorker

/-- The publication of a pass and the admission decision, without a suspension. -/
def publish (coordinator : Coordinator) (pass : SnapshotPass) : Coordinator :=
  let target := pass.target.snapshot
  let reloadRequired :=
    stableBatchRequiresReload (coordinator.platformSnapshot.map SnapshotObject.snapshot) target
  let published := { coordinator with
    appliedGeneration := pass.generation
    appliedSnapshot := some pass.target
    dirty := false
    reconciling := false
    failed := false
    lastError := none
    -- Initial setup forwards the platforms only after this publication.
    platformSnapshot := some (coordinator.platformSnapshot.getD pass.target) }
  if coordinator.reloadFailedFingerprint = some target.entrySnapshotFingerprint then
    published.fail pass.generation "ReconciliationError: configuration reload previously failed"
  else if reloadRequired && coordinator.reloadEntry then published.queueReload target
  else
    let settled := published.cancelPendingReload
    { settled with barrier := settled.barrier.update (some false) (some false) (some false) }

/-- The snapshot is read again after the applier, and observed when it has changed. -/
def reread (coordinator : Coordinator) (pass : SnapshotPass)
    (fresh : Except String ImmutableEntrySnapshot) (rebuilt : Except String SnapshotObject) :
    Except String Coordinator :=
  if coordinator.observedGeneration = pass.generation then
    match fresh with
    | .error error => .error error
    | .ok fresh =>
      if fresh.entrySnapshotFingerprint ≠ pass.target.snapshot.entrySnapshotFingerprint then
        .ok (coordinator.observeCurrent rebuilt)
      else .ok coordinator
  else .ok coordinator

/-- The worker once the applier has returned: it publishes, starts over, or gives up. -/
def endPass (coordinator : Coordinator) (pass : SnapshotPass)
    (fresh : Except String ImmutableEntrySnapshot) (rebuilt : Except String SnapshotObject) :
    Coordinator :=
  if !coordinator.publicationAllowed || coordinator.stopping then coordinator.finishWorker
  else match coordinator.reread pass fresh rebuilt with
    | .error error => (coordinator.fail pass.generation error).finishWorker
    | .ok observed =>
      if observed.isCurrent pass then (observed.publish pass).finishWorker
      else beginPass { observed with supersededCount := observed.supersededCount + 1 }

/-- `async_reconcile` once `_ready` is set. -/
def reconcile (coordinator : Coordinator) : Coordinator :=
  if coordinator.stopping then coordinator
  else if !coordinator.dirty && coordinator.appliedGeneration = coordinator.observedGeneration then
    coordinator
  else if coordinator.worker.isSome then { coordinator with joined := coordinator.joined + 1 }
  else coordinator.beginPass

/-! ## The reload -/

/-- `_begin_reload_if_current`: the latest stable publication alone is reloaded. -/
def beginReloadIfCurrent (coordinator : Coordinator) : Coordinator :=
  let begun := { coordinator with reloadHandle := false }
  match coordinator.reloadGeneration, coordinator.reloadSnapshotFingerprint,
      coordinator.appliedSnapshot with
  | some generation, some fingerprint, some current =>
    if !coordinator.reloadPending || !coordinator.reloadEntry || coordinator.isStopping ||
        coordinator.dirty || coordinator.reconciling || coordinator.failed ||
        coordinator.observedGeneration ≠ generation ||
        coordinator.appliedGeneration ≠ generation ||
        current.snapshot.entrySnapshotFingerprint ≠ fingerprint then begun
    else { begun with reloadTask := some ⟨generation, fingerprint, .created⟩ }
  | _, _, _ => begun

/-- `_async_apply_reload` up to the call of the reload. -/
def startReload (coordinator : Coordinator) (task : ReloadTask) : Coordinator :=
  if coordinator.isStopping || !coordinator.reloadPending ||
      coordinator.reloadGeneration ≠ some task.generation ||
      coordinator.reloadSnapshotFingerprint ≠ some task.fingerprint ||
      coordinator.observedGeneration ≠ task.generation ||
      coordinator.appliedGeneration ≠ task.generation then
    { coordinator with reloadTask := none }
  else { coordinator with reloadTask := some { task with phase := .reloading } }

def reloadSucceeded (coordinator : Coordinator) : Coordinator :=
  { coordinator with
    reloadCount := coordinator.reloadCount + 1
    reloadPending := false
    reloadGeneration := none
    reloadSnapshotFingerprint := none
    platformSnapshot := coordinator.appliedSnapshot
    barrier :=
      if coordinator.isStopping then coordinator.barrier
      else coordinator.barrier.update (some false) (some false) (some false)
    reloadTask := none }

def reloadFailed (coordinator : Coordinator) (task : ReloadTask) (error : String) : Coordinator :=
  { coordinator with
    reloadFailedFingerprint := some task.fingerprint
    reloadPending := false }.fail task.generation error

def reloadRaised (coordinator : Coordinator) (task : ReloadTask) (error : String) : Coordinator :=
  let ended :=
    if !coordinator.isStopping ∧ coordinator.reloadSnapshotFingerprint = some task.fingerprint then
      coordinator.reloadFailed task error
    else coordinator
  { ended with reloadTask := none }

def reloadCancelled (coordinator : Coordinator) (task : ReloadTask) : Coordinator :=
  let ended :=
    if coordinator.isStopping then coordinator
    else coordinator.reloadFailed task "ReconciliationError: configuration reload was cancelled"
  { ended with reloadTask := none }

/-- `close_publication_now`. -/
def closePublicationNow (coordinator : Coordinator) : Coordinator :=
  cancelPendingReload
    { coordinator with
      publicationAllowed := false
      stopping := true
      dirty := true
      barrier := coordinator.barrier.update (some true) (some false) none
      ready := true }

end Coordinator

/-! ## The system -/

/-- What happens between two suspension points. -/
inductive CoordinatorLabel where
  /-- `observe_current`, followed by a call of `async_reconcile`. -/
  | notified (built : Except String SnapshotObject)
  /-- Another call of `async_reconcile`. -/
  | called
  /-- `async_start` permits the calls to go on. -/
  | setReady
  /-- A call gets its turn. -/
  | reconciled
  | applierRaised (error : String)
  | applierReturned (fresh : Except String ImmutableEntrySnapshot)
      (rebuilt : Except String SnapshotObject)
  | reloadBegun
  | reloadStarted
  | reloadReturned (reloaded : Bool)
  | reloadRaised (error : String)
  | reloadCancelled
  | publicationClosed

def Coordinator.reloadIn (coordinator : Coordinator) (phase : ReloadPhase) : Option ReloadTask :=
  coordinator.reloadTask.filter fun task => task.phase = phase

def Coordinator.step (coordinator : Coordinator) : CoordinatorLabel → Option Coordinator
  | .notified built =>
    some { coordinator.observeCurrent built with calls := coordinator.calls + 1 }
  | .called => some { coordinator with calls := coordinator.calls + 1 }
  | .setReady => some { coordinator with ready := true }
  | .reconciled =>
    if coordinator.ready ∧ 0 < coordinator.calls then
      some (reconcile { coordinator with calls := coordinator.calls - 1 })
    else none
  | .applierRaised error => coordinator.worker.map fun pass =>
    (coordinator.fail pass.generation error).finishWorker
  | .applierReturned fresh rebuilt => coordinator.worker.map fun pass =>
    coordinator.endPass pass fresh rebuilt
  | .reloadBegun =>
    if coordinator.reloadHandle then some coordinator.beginReloadIfCurrent else none
  | .reloadStarted => (coordinator.reloadIn .created).map coordinator.startReload
  | .reloadReturned reloaded => (coordinator.reloadIn .reloading).map fun task =>
    if reloaded then coordinator.reloadSucceeded
    else coordinator.reloadRaised task
      "ReconciliationError: supported config-entry reload returned false"
  | .reloadRaised error => (coordinator.reloadIn .reloading).map fun task =>
    coordinator.reloadRaised task error
  | .reloadCancelled => match coordinator.reloadTask with
    | some task => match task.phase with
      | .created => some { coordinator with reloadTask := some { task with phase := .abandoned } }
      | .reloading => some (coordinator.reloadCancelled task)
      | .abandoned => none
    | none => none
  | .publicationClosed => some coordinator.closePublicationNow

/-- The coordinator among its callers, its applier and its reloads. -/
def coordinatorSystem : LabelledSystem Coordinator CoordinatorLabel where
  step := Coordinator.step

end MoistureLoop
