import MoistureLoop.Reconciliation.Admission

/-! # The coordinator at rest

The barrier is clear only over a coordinator that has applied what it observed and runs no
pass; it gets there by a publication. -/

namespace MoistureLoop

namespace Coordinator

/-- The observed configuration is applied and no pass is running. -/
structure AtRest (coordinator : Coordinator) : Prop where
  generation : coordinator.appliedGeneration = coordinator.observedGeneration
  succeeded : coordinator.failed = false
  publishing : coordinator.isStopping = false
  idle : coordinator.worker = none

/-- A pass that has just begun, or could not, is not at rest. -/
theorem not_atRest_beginPass (coordinator : Coordinator) : ¬ AtRest coordinator.beginPass := by
  intro rest
  obtain ⟨stopped, same⟩ | ⟨error, same⟩ | ⟨target, -, same⟩ := coordinator.beginPass_cases
  · have publishing := rest.publishing
    rw [same] at publishing
    have stopped' : coordinator.isStopping = false := publishing
    rw [stopped] at stopped'
    cases stopped'
  · have succeeded := rest.succeeded
    rw [same] at succeeded
    cases succeeded
  · have idle := rest.idle
    rw [same] at idle
    cases idle

/-- How a step of the coordinator can lead to rest: from rest, or by a publication. -/
inductive ComesToRest (coordinator : Coordinator) (label : CoordinatorLabel) :
    Coordinator → Prop where
  /-- It was at rest with the same configuration and the same barrier. -/
  | kept {next : Coordinator} : AtRest coordinator → next.barrier = coordinator.barrier →
      next.appliedSnapshot = coordinator.appliedSnapshot →
      next.observedSnapshot = coordinator.observedSnapshot →
      next.reloadPending = coordinator.reloadPending → ComesToRest coordinator label next
  | reloaded : AtRest coordinator → label = .reloadReturned true →
      ComesToRest coordinator label coordinator.reloadSucceeded
  | published {pass : SnapshotPass} {fresh : Except String ImmutableEntrySnapshot}
      {unchanged : ImmutableEntrySnapshot} {rebuilt : Except String SnapshotObject} :
      coordinator.worker = some pass → label = .applierReturned fresh rebuilt →
      coordinator.isCurrent pass = true → fresh = .ok unchanged →
      unchanged.entrySnapshotFingerprint = pass.target.snapshot.entrySnapshotFingerprint →
      ComesToRest coordinator label (coordinator.publish pass).finishWorker

theorem comesToRest {coordinator next : Coordinator} {label : CoordinatorLabel}
    (applies : coordinator.AppliesObserved) (stepped : coordinator.step label = some next)
    (rest : AtRest next) : ComesToRest coordinator label next := by
  cases step_moved stepped with
  | notified built =>
    have same : coordinator.appliedGeneration = coordinator.observedGeneration + 1 :=
      rest.generation
    have bounded := applies.bounded
    omega
  | bookkept | returned | joined =>
    exact .kept ⟨rest.generation, rest.succeeded, rest.publishing, rest.idle⟩ rfl rfl rfl rfl
  | began => exact absurd rest (not_atRest_beginPass _)
  | applierRaised => exact absurd rest.succeeded (by simp [finishWorker, fail])
  | applierReturned running ended =>
    cases ended with
    | stopped stopped =>
      have publishing : coordinator.isStopping = false := rest.publishing
      rw [stopped] at publishing
      cases publishing
    | failed error => exact absurd rest.succeeded (by simp [finishWorker, fail])
    | superseded count => exact absurd rest (not_atRest_beginPass _)
    | published current unchanged same =>
      exact .published running rfl current unchanged same
  | reloadSucceeded =>
    exact .reloaded ⟨rest.generation, rest.succeeded, rest.publishing, rest.idle⟩ rfl
  | reloadFailed => exact absurd rest.succeeded (by simp [reloadFailed, fail])
  | publicationClosed =>
    have stopped := coordinator.closePublicationNow_frame.2.2.2.2.2
    rw [rest.publishing] at stopped
    cases stopped

theorem atRest_of_opened {coordinator next : Coordinator} {label : CoordinatorLabel}
    (before : coordinator.barrier.clear = true → AtRest coordinator)
    (stepped : coordinator.step label = some next)
    (looks : label = .reloadReturned true → coordinator.isStopping = true ∨
      coordinator.appliedGeneration = coordinator.observedGeneration ∧
        coordinator.failed = false ∧ coordinator.worker = none)
    (opened : next.barrier.clear = true) : AtRest next := by
  -- A pass that begins closes the barrier.
  have beginPass : ∀ other : Coordinator, (other.barrier.clear = true → AtRest other) →
      other.beginPass.barrier.clear = true → AtRest other.beginPass := by
    intro other before opened
    obtain ⟨stopped, same⟩ | ⟨error, same⟩ | ⟨target, -, same⟩ := other.beginPass_cases
    · rw [same] at opened
      have publishing := (before opened).publishing
      rw [stopped] at publishing
      cases publishing
    · rw [same] at opened
      cases opened
    · rw [same] at opened
      cases opened
  cases step_moved stepped with
  | notified | applierRaised | reloadFailed => cases opened
  | bookkept | returned | joined =>
    have rest := before opened
    exact ⟨rest.generation, rest.succeeded, rest.publishing, rest.idle⟩
  | began =>
    refine beginPass _ (fun opened => ?_) opened
    have rest := before opened
    exact ⟨rest.generation, rest.succeeded, rest.publishing, rest.idle⟩
  -- The worker runs, so the barrier was closed; only a publication opens it.
  | @applierReturned pass fresh rebuilt _ running ended =>
    have closed : coordinator.barrier.clear = true → False := fun opened => by
      have idle := (before opened).idle
      rw [running] at idle
      cases idle
    cases ended with
    | stopped => exact (closed opened).elim
    | failed => cases opened
    | superseded count observed =>
      refine beginPass _ (fun opened => ?_) opened
      obtain rfl | ⟨rebuilt, rfl⟩ := observed
      · exact (closed opened).elim
      · cases opened
    | published current =>
      have outcome := publish_outcome coordinator pass
      obtain ⟨generation, -, publishing⟩ := publish_applies current
      have opened' : (coordinator.publish pass).barrier.clear = true := opened
      cases outcome.kind with
      | failed _ closed =>
        rw [closed] at opened'
        cases opened'
      | queued closed =>
        rw [closed] at opened'
        cases opened'
      | opened _ _ _ succeeded => exact ⟨generation, succeeded, publishing, rfl⟩
  -- The end of a reload opens the barrier without looking, hence the condition.
  | reloadSucceeded =>
    obtain stopped | ⟨generation, succeeded, idle⟩ := looks rfl
    · have before' : coordinator.barrier.clear = true := by
        simpa [reloadSucceeded, stopped] using opened
      have publishing := (before before').publishing
      rw [stopped] at publishing
      cases publishing
    · by_cases stopped : coordinator.isStopping = true
      · have before' : coordinator.barrier.clear = true := by
          simpa [reloadSucceeded, stopped] using opened
        have publishing := (before before').publishing
        rw [stopped] at publishing
        cases publishing
      · exact ⟨generation, succeeded, Bool.eq_false_iff.mpr stopped, idle⟩
  | publicationClosed =>
    rw [coordinator.closePublicationNow_clear] at opened
    cases opened

/-- A worker keeps its pass except where the applier ends or begins. -/
theorem worker_of_moved {coordinator next : Coordinator} {label : CoordinatorLabel}
    (moved : Moved coordinator label next) :
    next.worker = coordinator.worker ∨
      (∃ error, label = .applierRaised error) ∨
      (∃ fresh rebuilt, label = .applierReturned fresh rebuilt) ∨
      label = .reconciled ∧ coordinator.worker = none := by
  cases moved with
  | applierRaised error => exact .inr (.inl ⟨error, rfl⟩)
  | @applierReturned _ fresh rebuilt => exact .inr (.inr (.inl ⟨fresh, rebuilt, rfl⟩))
  | began idle => exact .inr (.inr (.inr ⟨rfl, idle⟩))
  | publicationClosed => exact .inl coordinator.closePublicationNow_frame.2.2.2.2.1
  | notified | bookkept | returned | joined | reloadSucceeded | reloadFailed => exact .inl rfl

/-- Publication does not begin again. -/
theorem isStopping_of_moved {coordinator next : Coordinator} {label : CoordinatorLabel}
    (moved : Moved coordinator label next) (stopped : coordinator.isStopping = true) :
    next.isStopping = true := by
  have beginPass : ∀ other : Coordinator, other.isStopping = true →
      other.beginPass.isStopping = true := by
    intro other stopped
    obtain ⟨-, same⟩ | ⟨error, same⟩ | ⟨target, -, same⟩ := other.beginPass_cases <;>
      rw [same] <;> exact stopped
  cases moved with
  | began => exact beginPass _ stopped
  | applierReturned running ended =>
    cases ended with
    | stopped | failed => exact stopped
    | superseded count observed =>
      refine beginPass _ ?_
      obtain rfl | ⟨rebuilt, rfl⟩ := observed <;> exact stopped
    | published current =>
      have publishing := (isCurrent_iff.mp current).1
      rw [stopped] at publishing
      cases publishing
  | publicationClosed => exact coordinator.closePublicationNow_frame.2.2.2.2.2
  | notified | bookkept | returned | joined | applierRaised | reloadSucceeded | reloadFailed =>
    exact stopped

/-- Only a publication changes what is applied. -/
theorem appliedSnapshot_of_moved {coordinator next : Coordinator} {label : CoordinatorLabel}
    (moved : Moved coordinator label next) :
    next.appliedSnapshot = coordinator.appliedSnapshot ∨
      ∃ pass fresh rebuilt, coordinator.worker = some pass ∧
        label = .applierReturned fresh rebuilt ∧ coordinator.isCurrent pass = true ∧
        next.appliedSnapshot = some pass.target := by
  have beginPass : ∀ other : Coordinator,
      other.beginPass.appliedSnapshot = other.appliedSnapshot := by
    intro other
    obtain ⟨-, same⟩ | ⟨error, same⟩ | ⟨target, -, same⟩ := other.beginPass_cases <;>
      rw [same] <;> rfl
  cases moved with
  | began => exact .inl (beginPass _)
  | applierReturned running ended =>
    cases ended with
    | stopped | failed => exact .inl rfl
    | superseded count observed =>
      refine .inl ((beginPass _).trans ?_)
      obtain rfl | ⟨rebuilt, rfl⟩ := observed <;> rfl
    | published current =>
      exact .inr ⟨_, _, _, running, rfl, current, (publish_outcome coordinator _).appliedSnapshot⟩
  | publicationClosed => exact .inl coordinator.closePublicationNow_frame.2.2.2.1
  | notified | bookkept | returned | joined | applierRaised | reloadSucceeded | reloadFailed =>
    exact .inl rfl

/-- The pass is published, needs no reload and leaves none pending. -/
structure PublishesUnreloaded (coordinator : Coordinator) (pass : SnapshotPass)
    (fresh : Except String ImmutableEntrySnapshot) : Prop where
  current : coordinator.isCurrent pass = true
  unchanged : ∃ snapshot, fresh = .ok snapshot ∧
    snapshot.entrySnapshotFingerprint = pass.target.snapshot.entrySnapshotFingerprint
  unfailed : coordinator.reloadFailedFingerprint ≠
    some pass.target.snapshot.entrySnapshotFingerprint
  unneeded : (stableBatchRequiresReload (coordinator.platformSnapshot.map SnapshotObject.snapshot)
    pass.target.snapshot && coordinator.reloadEntry) = false
  settled : (coordinator.reloadTask.isSome && coordinator.reloadPending) = false

end Coordinator

end MoistureLoop
