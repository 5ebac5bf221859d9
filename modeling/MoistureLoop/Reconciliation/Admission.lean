import MoistureLoop.Reconciliation.Coordinator

/-! # Admission and the latest configuration

While the barrier is clear the applied configuration is the observed one, in every run that
avoids the two places where the coordinator clears the barrier without looking again.  And
once all callers have returned, the latest configuration has been attempted, in every run in
which a pass over an older one does not fail under its callers. -/

namespace MoistureLoop

def CoordinatorLabel.FailsReload : CoordinatorLabel → Prop
  | .reloadReturned false | .reloadRaised _ | .reloadCancelled => True
  | _ => False

namespace Coordinator

/-- What an open barrier promises. -/
structure Admits (coordinator : Coordinator) : Prop where
  generation : coordinator.appliedGeneration = coordinator.observedGeneration
  snapshot : coordinator.appliedSnapshot = coordinator.observedSnapshot
  settled : coordinator.reloadPending = false
  succeeded : coordinator.failed = false
  publishing : coordinator.isStopping = false

/-- The barrier is clear for the observed configuration only. -/
def AdmissionSound (coordinator : Coordinator) : Prop :=
  coordinator.barrier.clear = true → coordinator.Admits

structure AppliesObserved (coordinator : Coordinator) : Prop where
  bounded : coordinator.appliedGeneration ≤ coordinator.observedGeneration
  same : coordinator.appliedGeneration = coordinator.observedGeneration →
    coordinator.appliedSnapshot = coordinator.observedSnapshot

/-! ## Functions that close the barrier -/

theorem admissionSound_of_closed {coordinator : Coordinator}
    (closed : coordinator.barrier.clear = false) : coordinator.AdmissionSound := by
  intro opened
  rw [closed] at opened
  cases opened

@[simp] theorem fail_clear (coordinator : Coordinator) (generation : Nat) (error : String) :
    (coordinator.fail generation error).barrier.clear = false := rfl

@[simp] theorem observeCurrent_clear (coordinator : Coordinator)
    (built : Except String SnapshotObject) :
    (coordinator.observeCurrent built).barrier.clear = false := rfl

@[simp] theorem queueReload_clear (coordinator : Coordinator) (target : ImmutableEntrySnapshot) :
    (coordinator.queueReload target).barrier.clear = false := rfl

/-- Cancelling changes the reload decision only, and not one that has begun. -/
theorem cancelPendingReload_frame (coordinator : Coordinator) :
    ∃ generation fingerprint, coordinator.cancelPendingReload =
      { coordinator with
        reloadHandle := false
        reloadPending := coordinator.reloadTask.isSome && coordinator.reloadPending
        reloadGeneration := generation
        reloadSnapshotFingerprint := fingerprint } := by
  unfold cancelPendingReload
  cases running : coordinator.reloadTask with
  | none => exact ⟨_, _, rfl⟩
  | some task => exact ⟨_, _, rfl⟩

@[simp] theorem closePublicationNow_clear (coordinator : Coordinator) :
    coordinator.closePublicationNow.barrier.clear = false := by
  obtain ⟨generation, fingerprint, same⟩ := cancelPendingReload_frame
    { coordinator with
      publicationAllowed := false
      stopping := true
      dirty := true
      barrier := coordinator.barrier.update (some true) (some false) none
      ready := true }
  rw [closePublicationNow, same]
  rfl

theorem isCurrent_iff {coordinator : Coordinator} {pass : SnapshotPass} :
    coordinator.isCurrent pass = true ↔ coordinator.isStopping = false ∧
      coordinator.observedGeneration = pass.generation ∧
      coordinator.observedSnapshot = some pass.target := by
  simp only [isCurrent, isStopping, Bool.and_eq_true, decide_eq_true_eq, Bool.or_eq_false_iff,
    Bool.not_eq_eq_eq_not, Bool.not_true, Bool.not_false]
  constructor
  · rintro ⟨⟨⟨allowed, running⟩, generation⟩, snapshot⟩
    exact ⟨⟨running, allowed⟩, generation, snapshot⟩
  · rintro ⟨⟨running, allowed⟩, generation, snapshot⟩
    exact ⟨⟨⟨allowed, running⟩, generation⟩, snapshot⟩

/-! ## A pass -/

/-- A pass begins behind a closed barrier, unless publication has ended. -/
theorem beginPass_cases (coordinator : Coordinator) :
    (coordinator.isStopping = true ∧ coordinator.beginPass = coordinator.finishWorker) ∨
    (∃ error, coordinator.beginPass =
      (coordinator.fail coordinator.observedGeneration error).finishWorker) ∨
    ∃ target, coordinator.observedSnapshot = some target ∧ coordinator.beginPass =
      { coordinator with
        worker := some ⟨coordinator.observedGeneration, target⟩
        reconciling := true
        failed := false
        barrier := coordinator.barrier.update (some true) (some true) (some false) } := by
  unfold beginPass
  split
  · rename_i stopped
    refine .inl ⟨?_, rfl⟩
    simpa [isStopping, or_comm] using stopped
  · split
    · rename_i target observed _
      exact .inr (.inr ⟨target, observed, rfl⟩)
    · exact .inr (.inl ⟨_, rfl⟩)

/-- A publication reports the failed reload, queues a reload, or opens the barrier. -/
inductive Published (coordinator : Coordinator) (pass : SnapshotPass) : Coordinator → Prop where
  | failed {next : Coordinator} :
      coordinator.reloadFailedFingerprint = some pass.target.snapshot.entrySnapshotFingerprint →
      next.barrier.clear = false → next.failedGeneration = some pass.generation →
      Published coordinator pass next
  | queued {next : Coordinator} : next.barrier.clear = false → next.reloadPending = true →
      Published coordinator pass next
  | opened {next : Coordinator} :
      coordinator.reloadFailedFingerprint ≠ some pass.target.snapshot.entrySnapshotFingerprint →
      (stableBatchRequiresReload (coordinator.platformSnapshot.map SnapshotObject.snapshot)
        pass.target.snapshot && coordinator.reloadEntry) = false →
      next.barrier.clear = true → next.failed = false →
      next.reloadPending = (coordinator.reloadTask.isSome && coordinator.reloadPending) →
      Published coordinator pass next

structure PublishOutcome (coordinator : Coordinator) (pass : SnapshotPass) (next : Coordinator) :
    Prop where
  appliedGeneration : next.appliedGeneration = pass.generation
  appliedSnapshot : next.appliedSnapshot = some pass.target
  observedGeneration : next.observedGeneration = coordinator.observedGeneration
  observedSnapshot : next.observedSnapshot = coordinator.observedSnapshot
  isStopping : next.isStopping = coordinator.isStopping
  reloadEntry : next.reloadEntry = coordinator.reloadEntry
  reloadTask : next.reloadTask = coordinator.reloadTask
  platformSnapshot : next.platformSnapshot =
    some (coordinator.platformSnapshot.getD pass.target)
  kind : Published coordinator pass next

theorem publish_outcome (coordinator : Coordinator) (pass : SnapshotPass) :
    PublishOutcome coordinator pass (coordinator.publish pass) := by
  unfold publish
  simp only
  split
  · rename_i failed
    exact ⟨rfl, rfl, rfl, rfl, rfl, rfl, rfl, rfl, .failed failed rfl rfl⟩
  · rename_i unfailed
    split
    · exact ⟨rfl, rfl, rfl, rfl, rfl, rfl, rfl, rfl, .queued rfl rfl⟩
    · rename_i unneeded
      obtain ⟨generation, fingerprint, same⟩ := cancelPendingReload_frame
        { coordinator with
          appliedGeneration := pass.generation
          appliedSnapshot := some pass.target
          dirty := false
          reconciling := false
          failed := false
          lastError := none
          platformSnapshot := some (coordinator.platformSnapshot.getD pass.target) }
      rw [same]
      exact ⟨rfl, rfl, rfl, rfl, rfl, rfl, rfl, rfl,
        .opened unfailed (Bool.eq_false_iff.mpr unneeded) rfl rfl rfl⟩

/-- How a worker goes on once its applier has returned. -/
inductive PassEnded (coordinator : Coordinator) (pass : SnapshotPass)
    (fresh : Except String ImmutableEntrySnapshot) : Coordinator → Prop where
  | stopped : coordinator.isStopping = true →
      PassEnded coordinator pass fresh coordinator.finishWorker
  | failed (error : String) : coordinator.observedGeneration = pass.generation →
      PassEnded coordinator pass fresh (coordinator.fail pass.generation error).finishWorker
  | superseded {observed : Coordinator} (count : Nat) :
      observed = coordinator ∨ (∃ rebuilt, observed = coordinator.observeCurrent rebuilt) →
      PassEnded coordinator pass fresh { observed with supersededCount := count }.beginPass
  | published {unchanged : ImmutableEntrySnapshot} : coordinator.isCurrent pass = true →
      fresh = .ok unchanged → unchanged.entrySnapshotFingerprint =
        pass.target.snapshot.entrySnapshotFingerprint →
      PassEnded coordinator pass fresh (coordinator.publish pass).finishWorker

theorem endPass_cases (coordinator : Coordinator) (pass : SnapshotPass)
    (fresh : Except String ImmutableEntrySnapshot) (rebuilt : Except String SnapshotObject) :
    PassEnded coordinator pass fresh (coordinator.endPass pass fresh rebuilt) := by
  unfold endPass
  split
  · rename_i stopped
    exact .stopped (by simpa [isStopping, or_comm] using stopped)
  · unfold reread
    split
    · rename_i error failing
      split at failing
      · rename_i latest
        exact .failed error latest
      · cases failing
    · rename_i observed reread
      split
      · rename_i current
        split at reread
        · rename_i latest
          split at reread
          · cases reread
          · split at reread
            · obtain rfl := Except.ok.inj reread
              -- The mapping has changed: the generation of the pass is no longer observed.
              have newer := (isCurrent_iff.mp current).2.1
              simp only [observeCurrent] at newer
              omega
            · rename_i unchanged same
              obtain rfl := Except.ok.inj reread
              exact .published current rfl (not_not.mp same)
        · rename_i older
          obtain rfl := Except.ok.inj reread
          exact absurd (isCurrent_iff.mp current).2.1 older
      · refine .superseded _ ?_
        split at reread
        · split at reread
          · cases reread
          · split at reread
            · exact .inr ⟨rebuilt, (Except.ok.inj reread).symm⟩
            · exact .inl (Except.ok.inj reread).symm
        · exact .inl (Except.ok.inj reread).symm

/-! ## One step -/

/-- What a step does to the coordinator, by the function that does it. -/
inductive Moved (coordinator : Coordinator) : CoordinatorLabel → Coordinator → Prop where
  | notified (built : Except String SnapshotObject) :
      Moved coordinator (.notified built)
        { coordinator.observeCurrent built with calls := coordinator.calls + 1 }
  /-- Only the calls, the readiness and the reload task change; no call is lost, and what is
  reloaded has been applied. -/
  | bookkept {label : CoordinatorLabel} {calls : Nat} (ready handle : Bool)
      (task : Option ReloadTask) : coordinator.calls ≤ calls →
      (task.isSome = true → coordinator.reloadTask.isSome = true ∨
        coordinator.appliedSnapshot.isSome = true) →
      Moved coordinator label
        { coordinator with calls, ready, reloadHandle := handle, reloadTask := task }
  | returned : coordinator.isStopping = true ∨
        coordinator.appliedGeneration = coordinator.observedGeneration →
      Moved coordinator .reconciled { coordinator with calls := coordinator.calls - 1 }
  | joined : coordinator.worker.isSome = true →
      Moved coordinator .reconciled
        { coordinator with calls := coordinator.calls - 1, joined := coordinator.joined + 1 }
  | began : coordinator.worker = none →
      Moved coordinator .reconciled
        (beginPass { coordinator with calls := coordinator.calls - 1 })
  | applierRaised {pass : SnapshotPass} (error : String) : coordinator.worker = some pass →
      Moved coordinator (.applierRaised error) (coordinator.fail pass.generation error).finishWorker
  | applierReturned {pass : SnapshotPass} {fresh : Except String ImmutableEntrySnapshot}
      {rebuilt : Except String SnapshotObject} {next : Coordinator} :
      coordinator.worker = some pass → PassEnded coordinator pass fresh next →
      Moved coordinator (.applierReturned fresh rebuilt) next
  | reloadSucceeded : Moved coordinator (.reloadReturned true) coordinator.reloadSucceeded
  | reloadFailed {label : CoordinatorLabel} {task : ReloadTask} (error : String) :
      label.FailsReload → coordinator.reloadTask = some task →
      Moved coordinator label { coordinator.reloadFailed task error with reloadTask := none }
  | publicationClosed : Moved coordinator .publicationClosed coordinator.closePublicationNow

theorem reloadRaised_moved {coordinator : Coordinator} {label : CoordinatorLabel}
    {task : ReloadTask} (error : String) (failing : label.FailsReload)
    (running : coordinator.reloadTask = some task) :
    Moved coordinator label (coordinator.reloadRaised task error) := by
  unfold reloadRaised
  simp only
  split
  · exact .reloadFailed error failing running
  · exact .bookkept coordinator.ready coordinator.reloadHandle none le_rfl (by simp)

theorem step_moved {coordinator next : Coordinator} {label : CoordinatorLabel}
    (stepped : coordinator.step label = some next) : Moved coordinator label next := by
  cases label with
  | notified built =>
    obtain rfl := Option.some.inj stepped
    exact .notified built
  | called =>
    obtain rfl := Option.some.inj stepped
    exact .bookkept coordinator.ready coordinator.reloadHandle coordinator.reloadTask
      (Nat.le_succ _) .inl
  | setReady =>
    obtain rfl := Option.some.inj stepped
    exact .bookkept true coordinator.reloadHandle coordinator.reloadTask le_rfl .inl
  | reconciled =>
    obtain ⟨-, stepped⟩ := Option.ite_none_right_eq_some.mp stepped
    obtain rfl := Option.some.inj stepped
    -- The caller returns at once, joins the running worker, or begins a pass.
    unfold reconcile
    split
    · rename_i stopped
      have stopped' : coordinator.stopping = true := stopped
      exact .returned (.inl (by simp [isStopping, stopped']))
    · split
      · rename_i settled
        simp only [Bool.and_eq_true, decide_eq_true_eq] at settled
        exact .returned (.inr settled.2)
      · split
        · rename_i running
          exact .joined running
        · rename_i idle
          exact .began (by simpa using idle)
  | applierRaised error =>
    obtain ⟨pass, running, rfl⟩ := Option.map_eq_some_iff.mp stepped
    exact .applierRaised error running
  | applierReturned fresh rebuilt =>
    obtain ⟨pass, running, rfl⟩ := Option.map_eq_some_iff.mp stepped
    exact .applierReturned running (coordinator.endPass_cases pass fresh rebuilt)
  | reloadBegun =>
    obtain ⟨-, stepped⟩ := Option.ite_none_right_eq_some.mp stepped
    obtain rfl := Option.some.inj stepped
    -- A reload is begun for the applied generation only.
    unfold beginReloadIfCurrent
    simp only
    split
    · rename_i applied
      split
      · exact .bookkept coordinator.ready false _ le_rfl .inl
      · exact .bookkept coordinator.ready false _ le_rfl fun _ => .inr (by simp [applied])
    · exact .bookkept coordinator.ready false coordinator.reloadTask le_rfl .inl
  | reloadStarted =>
    obtain ⟨task, found, rfl⟩ := Option.map_eq_some_iff.mp stepped
    have running : coordinator.reloadTask = some task := (Option.filter_eq_some_iff.mp found).1
    unfold startReload
    split
    · exact .bookkept coordinator.ready coordinator.reloadHandle none le_rfl (by simp)
    · exact .bookkept coordinator.ready coordinator.reloadHandle _ le_rfl
        fun _ => .inl (by simp [running])
  -- Only a reload that returned true clears the barrier.
  | reloadReturned reloaded =>
    obtain ⟨task, found, rfl⟩ := Option.map_eq_some_iff.mp stepped
    cases reloaded with
    | false => exact reloadRaised_moved _ trivial (Option.filter_eq_some_iff.mp found).1
    | true => exact .reloadSucceeded
  | reloadRaised error =>
    obtain ⟨task, found, rfl⟩ := Option.map_eq_some_iff.mp stepped
    exact reloadRaised_moved _ trivial (Option.filter_eq_some_iff.mp found).1
  | reloadCancelled =>
    simp only [step] at stepped
    split at stepped
    · rename_i task running
      split at stepped
      · obtain rfl := Option.some.inj stepped
        exact .bookkept coordinator.ready coordinator.reloadHandle _ le_rfl
          fun _ => .inl (by simp [running])
      · obtain rfl := Option.some.inj stepped
        unfold reloadCancelled
        simp only
        split
        · exact .bookkept coordinator.ready coordinator.reloadHandle none le_rfl (by simp)
        · exact .reloadFailed _ trivial running
      · cases stepped
    · cases stepped
  | publicationClosed =>
    obtain rfl := Option.some.inj stepped
    exact .publicationClosed

theorem closePublicationNow_frame (coordinator : Coordinator) :
    coordinator.closePublicationNow.observedGeneration = coordinator.observedGeneration ∧
      coordinator.closePublicationNow.appliedGeneration = coordinator.appliedGeneration ∧
      coordinator.closePublicationNow.observedSnapshot = coordinator.observedSnapshot ∧
      coordinator.closePublicationNow.appliedSnapshot = coordinator.appliedSnapshot ∧
      coordinator.closePublicationNow.worker = coordinator.worker ∧
      coordinator.closePublicationNow.isStopping = true := by
  obtain ⟨generation, fingerprint, same⟩ := cancelPendingReload_frame
    { coordinator with
      publicationAllowed := false
      stopping := true
      dirty := true
      barrier := coordinator.barrier.update (some true) (some false) none
      ready := true }
  rw [closePublicationNow, same]
  exact ⟨rfl, rfl, rfl, rfl, rfl, rfl⟩

theorem closePublicationNow_reloadTask (coordinator : Coordinator) :
    coordinator.closePublicationNow.reloadTask = coordinator.reloadTask := by
  unfold closePublicationNow cancelPendingReload
  simp only
  split <;> rfl

/-! ## What is applied -/

theorem AppliesObserved.of_same {coordinator next : Coordinator}
    (applies : coordinator.AppliesObserved)
    (observedGeneration : next.observedGeneration = coordinator.observedGeneration)
    (appliedGeneration : next.appliedGeneration = coordinator.appliedGeneration)
    (observedSnapshot : next.observedSnapshot = coordinator.observedSnapshot)
    (appliedSnapshot : next.appliedSnapshot = coordinator.appliedSnapshot) :
    next.AppliesObserved := by
  refine ⟨?_, ?_⟩
  · rw [appliedGeneration, observedGeneration]
    exact applies.bounded
  · rw [appliedGeneration, observedGeneration, appliedSnapshot, observedSnapshot]
    exact applies.same

theorem AppliesObserved.observeCurrent {coordinator : Coordinator}
    (applies : coordinator.AppliesObserved) (built : Except String SnapshotObject) :
    (coordinator.observeCurrent built).AppliesObserved := by
  have bounded := applies.bounded
  refine ⟨?_, fun same => ?_⟩
  · show coordinator.appliedGeneration ≤ coordinator.observedGeneration + 1
    omega
  · have same' : coordinator.appliedGeneration = coordinator.observedGeneration + 1 := same
    omega

theorem AppliesObserved.beginPass {coordinator : Coordinator}
    (applies : coordinator.AppliesObserved) : coordinator.beginPass.AppliesObserved := by
  obtain ⟨-, same⟩ | ⟨error, same⟩ | ⟨target, -, same⟩ := coordinator.beginPass_cases <;>
    rw [same] <;> exact applies.of_same rfl rfl rfl rfl

/-- A current pass is published for the generation and the object observed. -/
theorem publish_applies {coordinator : Coordinator} {pass : SnapshotPass}
    (current : coordinator.isCurrent pass = true) :
    (coordinator.publish pass).appliedGeneration =
        (coordinator.publish pass).observedGeneration ∧
      (coordinator.publish pass).appliedSnapshot = (coordinator.publish pass).observedSnapshot ∧
      (coordinator.publish pass).isStopping = false := by
  have outcome := publish_outcome coordinator pass
  obtain ⟨publishing, generation, snapshot⟩ := isCurrent_iff.mp current
  rw [outcome.appliedGeneration, outcome.observedGeneration, outcome.appliedSnapshot,
    outcome.observedSnapshot, outcome.isStopping]
  exact ⟨generation.symm, snapshot.symm, publishing⟩

theorem AppliesObserved.step {coordinator next : Coordinator} {label : CoordinatorLabel}
    (applies : coordinator.AppliesObserved) (stepped : coordinator.step label = some next) :
    next.AppliesObserved := by
  cases step_moved stepped with
  | notified built => exact (applies.observeCurrent built).of_same rfl rfl rfl rfl
  | began =>
    refine AppliesObserved.beginPass ?_
    exact applies.of_same rfl rfl rfl rfl
  | @applierReturned pass fresh rebuilt _ _ ended =>
    cases ended with
    | stopped | failed => exact applies.of_same rfl rfl rfl rfl
    | superseded count observed =>
      refine AppliesObserved.beginPass ?_
      obtain rfl | ⟨rebuilt, rfl⟩ := observed
      · exact applies.of_same rfl rfl rfl rfl
      · exact (applies.observeCurrent rebuilt).of_same rfl rfl rfl rfl
    | published current =>
      obtain ⟨generation, snapshot, -⟩ := publish_applies current
      exact ⟨generation.le, fun _ => snapshot⟩
  | publicationClosed =>
    obtain ⟨observed, applied, snapshot, snapshot', -⟩ := coordinator.closePublicationNow_frame
    exact applies.of_same observed applied snapshot snapshot'
  | bookkept | returned | joined | applierRaised | reloadSucceeded | reloadFailed =>
    exact applies.of_same rfl rfl rfl rfl

def ReloadsApplied (coordinator : Coordinator) : Prop :=
  coordinator.reloadTask.isSome = true → coordinator.appliedSnapshot.isSome = true

theorem ReloadsApplied.of_same {coordinator next : Coordinator}
    (reloads : coordinator.ReloadsApplied) (task : next.reloadTask = coordinator.reloadTask)
    (applied : next.appliedSnapshot = coordinator.appliedSnapshot) : next.ReloadsApplied := by
  rw [ReloadsApplied, task, applied]
  exact reloads

theorem ReloadsApplied.beginPass {coordinator : Coordinator}
    (reloads : coordinator.ReloadsApplied) : coordinator.beginPass.ReloadsApplied := by
  obtain ⟨-, same⟩ | ⟨error, same⟩ | ⟨target, -, same⟩ := coordinator.beginPass_cases <;>
    rw [same] <;> exact reloads.of_same rfl rfl

theorem ReloadsApplied.step {coordinator next : Coordinator} {label : CoordinatorLabel}
    (reloads : coordinator.ReloadsApplied) (stepped : coordinator.step label = some next) :
    next.ReloadsApplied := by
  cases step_moved stepped with
  | bookkept ready handle task _ applied => exact fun running => (applied running).elim reloads id
  | began => exact ReloadsApplied.beginPass (reloads.of_same rfl rfl)
  | @applierReturned pass fresh rebuilt _ _ ended =>
    cases ended with
    | stopped | failed => exact reloads.of_same rfl rfl
    | superseded count observed =>
      refine ReloadsApplied.beginPass ?_
      obtain rfl | ⟨rebuilt, rfl⟩ := observed <;> exact reloads.of_same rfl rfl
    | published =>
      have applied := (publish_outcome coordinator pass).appliedSnapshot
      have applied' : (coordinator.publish pass).finishWorker.appliedSnapshot = some pass.target :=
        applied
      exact fun _ => by simp [applied']
  | publicationClosed =>
    obtain ⟨-, -, -, applied, -⟩ := coordinator.closePublicationNow_frame
    exact reloads.of_same coordinator.closePublicationNow_reloadTask applied
  | reloadSucceeded | reloadFailed =>
    intro running
    cases running
  | notified | returned | joined | applierRaised => exact reloads.of_same rfl rfl

/-! ## Where the barrier is cleared -/

/-- The pass is published without a reload while one that has begun is pending. -/
structure ClearsOverReload (coordinator : Coordinator) (pass : SnapshotPass)
    (fresh : Except String ImmutableEntrySnapshot) : Prop where
  current : coordinator.isCurrent pass = true
  unchanged : ∃ snapshot, fresh = .ok snapshot ∧
    snapshot.entrySnapshotFingerprint = pass.target.snapshot.entrySnapshotFingerprint
  unfailed : coordinator.reloadFailedFingerprint ≠
    some pass.target.snapshot.entrySnapshotFingerprint
  unneeded : (stableBatchRequiresReload (coordinator.platformSnapshot.map SnapshotObject.snapshot)
    pass.target.snapshot && coordinator.reloadEntry) = false
  begun : coordinator.reloadTask.isSome = true
  pending : coordinator.reloadPending = true

/-- No pass clears the barrier over a reload that has begun, and a reload that succeeds finds
the coordinator as it left it. -/
def LooksAgain (coordinator : Coordinator) (label : CoordinatorLabel) (_next : Coordinator) :
    Prop :=
  match label with
  | .applierReturned fresh _ => ∀ pass, coordinator.worker = some pass →
    ¬ coordinator.ClearsOverReload pass fresh
  | .reloadReturned true => coordinator.isStopping = true ∨
    coordinator.appliedGeneration = coordinator.observedGeneration ∧ coordinator.failed = false
  | _ => True

/-- A change that leaves the barrier and what it promises. -/
theorem AdmissionSound.of_same {coordinator next : Coordinator}
    (sound : coordinator.AdmissionSound)
    (generations : next.observedGeneration = coordinator.observedGeneration ∧
      next.appliedGeneration = coordinator.appliedGeneration)
    (snapshots : next.observedSnapshot = coordinator.observedSnapshot ∧
      next.appliedSnapshot = coordinator.appliedSnapshot)
    (kept : next.barrier = coordinator.barrier ∧ next.reloadPending = coordinator.reloadPending ∧
      next.failed = coordinator.failed ∧ next.isStopping = coordinator.isStopping) :
    next.AdmissionSound := by
  obtain ⟨barrier, pending, failed, stopping⟩ := kept
  intro opened
  rw [barrier] at opened
  obtain ⟨generation, snapshot, settled, succeeded, publishing⟩ := sound opened
  exact ⟨by rw [generations.1, generations.2, generation],
    by rw [snapshots.1, snapshots.2, snapshot], pending.trans settled, failed.trans succeeded,
    stopping.trans publishing⟩

theorem AdmissionSound.beginPass {coordinator : Coordinator}
    (sound : coordinator.AdmissionSound) : coordinator.beginPass.AdmissionSound := by
  obtain ⟨-, same⟩ | ⟨error, same⟩ | ⟨target, -, same⟩ := coordinator.beginPass_cases
  · rw [same]
    exact sound.of_same ⟨rfl, rfl⟩ ⟨rfl, rfl⟩ ⟨rfl, rfl, rfl, rfl⟩
  · rw [same]
    exact admissionSound_of_closed rfl
  · rw [same]
    exact admissionSound_of_closed rfl

theorem admissionSound_publish {coordinator : Coordinator} {pass : SnapshotPass}
    {unchanged : ImmutableEntrySnapshot} (current : coordinator.isCurrent pass = true)
    (same : unchanged.entrySnapshotFingerprint = pass.target.snapshot.entrySnapshotFingerprint)
    (rechecks : ¬ coordinator.ClearsOverReload pass (.ok unchanged)) :
    (coordinator.publish pass).AdmissionSound := by
  have outcome := publish_outcome coordinator pass
  obtain ⟨generation, snapshot, publishing⟩ := publish_applies current
  cases outcome.kind with
  | failed _ closed => exact admissionSound_of_closed closed
  | queued closed => exact admissionSound_of_closed closed
  | opened unfailed unneeded _ succeeded pending =>
    intro _
    refine ⟨generation, snapshot, ?_, succeeded, publishing⟩
    rw [pending]
    by_contra still
    simp only [Bool.and_eq_false_iff, not_or, Bool.not_eq_false] at still
    exact rechecks ⟨current, ⟨unchanged, rfl, same⟩, unfailed, unneeded, still.1, still.2⟩

theorem AdmissionSound.step {coordinator next : Coordinator} {label : CoordinatorLabel}
    (applies : coordinator.AppliesObserved) (sound : coordinator.AdmissionSound)
    (stepped : coordinator.step label = some next)
    (looks : coordinator.LooksAgain label next) : next.AdmissionSound := by
  cases step_moved stepped with
  | notified | applierRaised | reloadFailed => exact admissionSound_of_closed rfl
  | bookkept | returned | joined =>
    exact sound.of_same ⟨rfl, rfl⟩ ⟨rfl, rfl⟩ ⟨rfl, rfl, rfl, rfl⟩
  | began =>
    refine AdmissionSound.beginPass ?_
    exact sound.of_same ⟨rfl, rfl⟩ ⟨rfl, rfl⟩ ⟨rfl, rfl, rfl, rfl⟩
  | @applierReturned pass fresh rebuilt _ running ended =>
    cases ended with
    | stopped => exact sound.of_same ⟨rfl, rfl⟩ ⟨rfl, rfl⟩ ⟨rfl, rfl, rfl, rfl⟩
    | failed => exact admissionSound_of_closed rfl
    | superseded count observed =>
      refine AdmissionSound.beginPass ?_
      obtain rfl | ⟨rebuilt, rfl⟩ := observed
      · exact sound.of_same ⟨rfl, rfl⟩ ⟨rfl, rfl⟩ ⟨rfl, rfl, rfl, rfl⟩
      · exact admissionSound_of_closed rfl
    | published current unchanged same =>
      have published := admissionSound_publish current same (unchanged ▸ looks pass running)
      exact published.of_same ⟨rfl, rfl⟩ ⟨rfl, rfl⟩ ⟨rfl, rfl, rfl, rfl⟩
  | reloadSucceeded =>
    intro opened
    by_cases stopped : coordinator.isStopping = true
    · -- The barrier is as it was, and it was closed.
      have before : coordinator.barrier.clear = true := by
        simpa [Coordinator.reloadSucceeded, stopped] using opened
      rw [(sound before).publishing] at stopped
      cases stopped
    · obtain ⟨generation, succeeded⟩ := looks.resolve_left stopped
      exact ⟨generation, applies.same generation, rfl, succeeded, Bool.eq_false_iff.mpr stopped⟩
  | publicationClosed => exact admissionSound_of_closed coordinator.closePublicationNow_clear

end Coordinator

/-- A coordinator before its first notification, with or without a reload. -/
def initialCoordinator (reloadEntry : Bool) : Coordinator where
  reloadEntry

/-- While the barrier is clear, the applied configuration is the observed one, no reload is
pending, the last pass did not fail and publication goes on: in every run in which the
coordinator looks again before it clears the barrier. -/
theorem admissionSound_of_run {reloadEntry : Bool} {coordinator : Coordinator}
    (reached : coordinatorSystem.Run Coordinator.LooksAgain (initialCoordinator reloadEntry)
      coordinator) : coordinator.AdmissionSound := by
  have initial : (initialCoordinator reloadEntry).AppliesObserved ∧
      (initialCoordinator reloadEntry).AdmissionSound :=
    ⟨⟨le_rfl, fun _ => rfl⟩, fun _ => ⟨rfl, rfl, rfl, rfl, rfl⟩⟩
  have invariant : coordinator.AppliesObserved ∧ coordinator.AdmissionSound := by
    induction reached with
    | refl => exact initial
    | step label _ stepped looks both =>
      exact ⟨both.1.step stepped, both.2.step both.1 stepped looks⟩
  exact invariant.2

/-! ## A reload that outlives its configuration -/

/-- A configuration of one zone, by what tells it apart. -/
def sampleConfiguration (generation : Nat) (fingerprint : String) : SnapshotObject where
  ref := generation
  snapshot :=
    { observedGeneration := generation
      entrySnapshotFingerprint := "entry " ++ fingerprint
      zones :=
        [{ subentryId := "bed"
           config := sampleConfig "sensor.soil" "switch.a"
           sensorIdentity := ⟨some "sensor-uuid", "sensor.soil", "sensor"⟩
           actuatorIdentity := ⟨some "uuid-a", "switch.a", "switch"⟩
           configFingerprint := fingerprint }]
      sorted := by simp }

def applyConfiguration (generation : Nat) (fingerprint : String) : List CoordinatorLabel :=
  let built := sampleConfiguration generation fingerprint
  [.notified (.ok built), .reconciled, .applierReturned (.ok built.snapshot) (.ok built)]

/-- The second configuration needs a reload, which begins. -/
def begunReload : List CoordinatorLabel :=
  .setReady :: applyConfiguration 1 "dry" ++ applyConfiguration 2 "wet" ++
    [.reloadBegun, .reloadStarted]

/-- While the reload runs, the third configuration is being applied. -/
def outlivedReload : List CoordinatorLabel :=
  begunReload ++ [.notified (.ok (sampleConfiguration 3 "wetter")), .reconciled]

/-- `LooksAgain`, decided for runs without a pass over a pending reload. -/
def looksAgain (coordinator : Coordinator) (label : CoordinatorLabel) (_next : Coordinator) :
    Bool :=
  match label with
  | .applierReturned _ _ => coordinator.reloadTask.isNone
  | .reloadReturned true => coordinator.isStopping ||
    decide (coordinator.appliedGeneration = coordinator.observedGeneration) && !coordinator.failed
  | _ => true

theorem looksAgain_sound {coordinator next : Coordinator} {label : CoordinatorLabel}
    (looks : looksAgain coordinator label next = true) : coordinator.LooksAgain label next := by
  cases label with
  | applierReturned fresh rebuilt =>
    intro pass _ clears
    have none' : coordinator.reloadTask.isNone = true := looks
    have begun := clears.begun
    rw [Option.isNone_iff_eq_none.mp none'] at begun
    cases begun
  | reloadReturned reloaded =>
    cases reloaded with
    | false => trivial
    | true => simpa [looksAgain, Coordinator.LooksAgain] using looks
  | _ => trivial

/-- The reload succeeds, and the second configuration is admitted. -/
theorem admissionSound_of_run_reloading : ∃ coordinator,
    coordinatorSystem.Run Coordinator.LooksAgain (initialCoordinator true) coordinator ∧
      coordinator.reloadCount = 1 ∧ coordinator.observedGeneration = 2 ∧
      coordinator.barrier.clear = true ∧ coordinator.Admits := by
  obtain ⟨coordinator, ran, outcome⟩ := (Option.any_eq_true _ _).mp
    (show (coordinatorSystem.runWhile looksAgain (initialCoordinator true)
      (begunReload ++ [.reloadReturned true])).any (fun coordinator =>
        decide (coordinator.reloadCount = 1 ∧ coordinator.observedGeneration = 2 ∧
          coordinator.barrier.clear = true)) = true by decide +kernel)
  have reached := LabelledSystem.Run.of_runWhile (fun _ _ _ => looksAgain_sound) ran
  obtain ⟨reloaded, observed, clear⟩ := of_decide_eq_true outcome
  exact ⟨coordinator, reached, reloaded, observed, clear, admissionSound_of_run reached clear⟩

/-- The reload of the second configuration succeeds while the third is being applied: the
barrier is clear, and what is applied is not what is observed. -/
theorem not_admissionSound_outlived : ¬ ∀ coordinator : Coordinator,
    coordinatorSystem.Run (fun _ _ _ => True) (initialCoordinator true) coordinator →
      coordinator.AdmissionSound := by
  intro sound
  have executed : (coordinatorSystem.run (initialCoordinator true)
      (outlivedReload ++ [.reloadReturned true])).any (fun coordinator =>
        coordinator.barrier.clear && coordinator.appliedGeneration = 2 &&
          coordinator.observedGeneration = 3) = true := by decide +kernel
  obtain ⟨coordinator, ran, reached⟩ := (Option.any_eq_true _ _).mp executed
  simp only [Bool.and_eq_true, decide_eq_true_eq] at reached
  have admits := sound coordinator (LabelledSystem.Run.of_run ran) reached.1.1
  have same := admits.generation
  omega

/-! ## The latest configuration -/

namespace Coordinator

/-- All callers of `async_reconcile` have returned. -/
def Quiescent (coordinator : Coordinator) : Prop :=
  coordinator.calls = 0 ∧ coordinator.joined = 0 ∧ coordinator.worker = none

/-- The latest configuration is applied, or the recorded failure is about it. -/
def LatestAttempted (coordinator : Coordinator) : Prop :=
  coordinator.appliedGeneration = coordinator.observedGeneration ∨
    coordinator.failed = true ∧
      coordinator.failedGeneration = some coordinator.observedGeneration

/-- A failure is about the latest configuration, or somebody is still to look at that. -/
def FailsForLatest (coordinator : Coordinator) (label : CoordinatorLabel) (_next : Coordinator) :
    Prop :=
  match label with
  | .applierRaised _ => ∀ pass, coordinator.worker = some pass →
    pass.generation = coordinator.observedGeneration ∨ 0 < coordinator.calls
  | .reloadReturned false | .reloadRaised _ | .reloadCancelled => ∀ task,
    coordinator.reloadTask = some task → task.generation = coordinator.observedGeneration ∨
      coordinator.appliedGeneration = coordinator.observedGeneration ∨ 0 < coordinator.calls ∨
        coordinator.worker.isSome = true
  | _ => True

/-- Somebody is still to look at the latest configuration, or it has been attempted. -/
def Pursued (coordinator : Coordinator) : Prop :=
  coordinator.isStopping = true ∨ 0 < coordinator.calls ∨ coordinator.worker.isSome = true ∨
    coordinator.LatestAttempted

theorem pursued_beginPass (coordinator : Coordinator) : coordinator.beginPass.Pursued := by
  obtain ⟨stopped, same⟩ | ⟨error, same⟩ | ⟨target, -, same⟩ := coordinator.beginPass_cases
  · rw [same]
    exact .inl stopped
  · rw [same]
    exact .inr (.inr (.inr (.inr ⟨rfl, rfl⟩)))
  · rw [same]
    exact .inr (.inr (.inl rfl))

theorem PassEnded.pursued {coordinator next : Coordinator} {pass : SnapshotPass}
    {fresh : Except String ImmutableEntrySnapshot}
    (ended : PassEnded coordinator pass fresh next) : next.Pursued := by
  cases ended with
  | stopped stopped => exact .inl stopped
  | failed error latest => exact .inr (.inr (.inr (.inr ⟨rfl, congrArg some latest.symm⟩)))
  | superseded count => exact pursued_beginPass _
  | published current => exact .inr (.inr (.inr (.inl (publish_applies current).1)))

theorem Pursued.step {coordinator next : Coordinator} {label : CoordinatorLabel}
    (pursued : coordinator.Pursued) (stepped : coordinator.step label = some next)
    (latest : coordinator.FailsForLatest label next) : next.Pursued := by
  cases step_moved stepped with
  | notified => exact .inr (.inl (Nat.succ_pos _))
  | bookkept ready handle task more =>
    obtain stopped | called | running | attempted := pursued
    · exact .inl stopped
    · exact .inr (.inl (lt_of_lt_of_le called more))
    · exact .inr (.inr (.inl running))
    · exact .inr (.inr (.inr attempted))
  | returned settled =>
    obtain stopped | applied := settled
    · exact .inl stopped
    · exact .inr (.inr (.inr (.inl applied)))
  | joined running => exact .inr (.inr (.inl running))
  | began => exact pursued_beginPass _
  | @applierRaised pass error running =>
    obtain same | called := latest pass running
    · exact .inr (.inr (.inr (.inr ⟨rfl, congrArg some same⟩)))
    · exact .inr (.inl called)
  | applierReturned _ ended => exact ended.pursued
  | reloadSucceeded => exact pursued
  | @reloadFailed _ task error failing found =>
    have covered : task.generation = coordinator.observedGeneration ∨
        coordinator.appliedGeneration = coordinator.observedGeneration ∨ 0 < coordinator.calls ∨
          coordinator.worker.isSome = true := by
      cases label with
      | reloadReturned reloaded =>
        cases reloaded with
        | false => exact latest task found
        | true => exact failing.elim
      | reloadRaised | reloadCancelled => exact latest task found
      | _ => exact failing.elim
    obtain same | applied | called | running := covered
    · exact .inr (.inr (.inr (.inr ⟨rfl, congrArg some same⟩)))
    · exact .inr (.inr (.inr (.inl applied)))
    · exact .inr (.inl called)
    · exact .inr (.inr (.inl running))
  | publicationClosed => exact .inl coordinator.closePublicationNow_frame.2.2.2.2.2

end Coordinator

/-- Once all callers have returned and the coordinator is not stopping, the latest
configuration is applied or has failed itself: in every run in which no pass over an older one
fails under callers that have all joined it, and no older reload fails after it. -/
theorem latestAttempted_of_run {reloadEntry : Bool} {coordinator : Coordinator}
    (reached : coordinatorSystem.Run Coordinator.FailsForLatest (initialCoordinator reloadEntry)
      coordinator)
    (quiescent : coordinator.Quiescent) (publishing : coordinator.isStopping = false) :
    coordinator.LatestAttempted := by
  have pursued : coordinator.Pursued := by
    refine reached.preserves (.inr (.inr (.inr (.inl rfl)))) ?_
    intro state label next pursued stepped latest
    exact pursued.step stepped latest
  obtain stopped | called | running | attempted := pursued
  · rw [publishing] at stopped
    cases stopped
  · have none' := quiescent.1
    omega
  · rw [quiescent.2.2] at running
    cases running
  · exact attempted

/-- `FailsForLatest`, decided for runs without a failing reload. -/
def failsForLatest (coordinator : Coordinator) (label : CoordinatorLabel) (_next : Coordinator) :
    Bool :=
  match label with
  | .applierRaised _ =>
    coordinator.worker.all fun pass => pass.generation = coordinator.observedGeneration
  | .reloadReturned false | .reloadRaised _ | .reloadCancelled => false
  | _ => true

theorem failsForLatest_sound {coordinator next : Coordinator} {label : CoordinatorLabel}
    (fails : failsForLatest coordinator label next = true) :
    coordinator.FailsForLatest label next := by
  cases label with
  | applierRaised error =>
    intro pass running
    exact .inl (by simpa [failsForLatest, running] using fails)
  | reloadReturned reloaded =>
    cases reloaded with
    | false => cases fails
    | true => trivial
  | reloadRaised error => cases fails
  | reloadCancelled => cases fails
  | _ => trivial

/-- The first configuration fails, and no other has been observed. -/
theorem latestAttempted_of_run_failed : ∃ coordinator,
    coordinatorSystem.Run Coordinator.FailsForLatest (initialCoordinator true) coordinator ∧
      coordinator.failed = true ∧ coordinator.LatestAttempted := by
  have executed : (coordinatorSystem.runWhile failsForLatest (initialCoordinator true)
      [.setReady, .notified (.ok (sampleConfiguration 1 "dry")), .reconciled,
        .applierRaised "OSError: disk full"]).any (fun coordinator =>
      coordinator.failed && coordinator.calls = 0 && coordinator.joined = 0 &&
        coordinator.worker.isNone && !coordinator.isStopping) = true := by decide +kernel
  obtain ⟨coordinator, ran, outcome⟩ := (Option.any_eq_true _ _).mp executed
  simp only [Bool.and_eq_true, decide_eq_true_eq, Option.isNone_iff_eq_none,
    Bool.not_eq_true'] at outcome
  obtain ⟨⟨⟨⟨failed, calls⟩, joined⟩, worker⟩, publishing⟩ := outcome
  have reached := LabelledSystem.Run.of_runWhile (fun _ _ _ => failsForLatest_sound) ran
  exact ⟨coordinator, reached, failed,
    latestAttempted_of_run reached ⟨calls, joined, worker⟩ publishing⟩

/-- A second configuration is observed while the first is being applied, and its call joins
the worker; then the first fails, and the second is never attempted. -/
theorem not_latestAttempted_joined : ¬ ∀ coordinator : Coordinator,
    coordinatorSystem.Run (fun _ _ _ => True) (initialCoordinator true) coordinator →
      coordinator.Quiescent → coordinator.isStopping = false → coordinator.LatestAttempted := by
  intro attempted
  have executed : (coordinatorSystem.run (initialCoordinator true)
      [.setReady, .notified (.ok (sampleConfiguration 1 "dry")), .reconciled,
        .notified (.ok (sampleConfiguration 2 "wet")), .reconciled,
        .applierRaised "OSError: disk full"]).any (fun coordinator =>
      coordinator.calls = 0 && coordinator.joined = 0 && coordinator.worker.isNone &&
        !coordinator.isStopping && coordinator.appliedGeneration = 0 &&
        coordinator.observedGeneration = 2 && coordinator.failedGeneration = some 1) = true := by
    decide +kernel
  obtain ⟨coordinator, ran, outcome⟩ := (Option.any_eq_true _ _).mp executed
  simp only [Bool.and_eq_true, decide_eq_true_eq, Option.isNone_iff_eq_none,
    Bool.not_eq_true'] at outcome
  obtain ⟨⟨⟨⟨⟨⟨calls, joined⟩, worker⟩, publishing⟩, applied⟩, observed⟩, failed⟩ := outcome
  obtain same | ⟨-, same⟩ := attempted coordinator (LabelledSystem.Run.of_run ran)
    ⟨calls, joined, worker⟩ publishing
  · omega
  · rw [failed, observed] at same
    cases same

end MoistureLoop
