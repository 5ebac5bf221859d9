import MoistureLoop.Controller.Step
import MoistureLoop.Controller.Frames
import MoistureLoop.StateMachine.Effect

/-! # What the pieces of a step do

One lemma for each piece from which the steps of a controller are built: which fields it
can change, and what becomes of the session.  The invariants of runs use only these. -/

open MoistureLoop.Action

namespace MoistureLoop

/-- Where an operation comes from: its history attributes. -/
def OffOperation.origin (operation : OffOperation) : Option PulseId × Option PulseId :=
  (operation.requestedFor, operation.begunIn)

namespace ZoneController

/-- The actions still to be executed by the application that holds the lock. -/
def ahead (controller : ZoneController) : List Action :=
  match controller.locked with
  | some (.applying _ _ rest _) => rest
  | _ => []

/-- `next` agrees with `controller` on identity, decided session, OFF request and the
origins of the OFF operations. -/
structure SameCore (controller next : ZoneController) : Prop where
  zoneId : next.zoneId = controller.zoneId
  safetyRecordId : next.safetyRecordId = controller.safetyRecordId
  state : next.state = controller.state
  session : next.session = controller.session
  offRequested : next.offRequested = controller.offRequested
  offRequestedFor : next.offRequestedFor = controller.offRequestedFor
  offOperation : next.offOperation = controller.offOperation
  origins : next.offOperations.map OffOperation.origin =
    controller.offOperations.map OffOperation.origin

theorem SameCore.refl (controller : ZoneController) : SameCore controller controller := by
  constructor <;> rfl

theorem SameCore.trans {first second third : ZoneController} (left : SameCore first second)
    (right : SameCore second third) : SameCore first third where
  zoneId := right.zoneId.trans left.zoneId
  safetyRecordId := right.safetyRecordId.trans left.safetyRecordId
  state := right.state.trans left.state
  session := right.session.trans left.session
  offRequested := right.offRequested.trans left.offRequested
  offRequestedFor := right.offRequestedFor.trans left.offRequestedFor
  offOperation := right.offOperation.trans left.offOperation
  origins := right.origins.trans left.origins

theorem SameDecided.sameCore {controller next : ZoneController}
    (same : SameDecided controller next) : SameCore controller next :=
  ⟨same.zoneId, same.safetyRecordId, same.state, same.session, same.offRequested,
    same.offRequestedFor, same.offOperation, by rw [same.offOperations]⟩

/-- `next` agrees with `controller` on everything that decides about OFF. -/
structure Quiet (controller next : ZoneController) : Prop where
  zoneId : next.zoneId = controller.zoneId
  safetyRecordId : next.safetyRecordId = controller.safetyRecordId
  state : next.state = controller.state
  session : next.session = controller.session
  activeFault : next.activeFault = controller.activeFault
  secondaryFault : next.secondaryFault = controller.secondaryFault
  enabled : next.enabled = controller.enabled
  offRequested : next.offRequested = controller.offRequested
  offRequestedFor : next.offRequestedFor = controller.offRequestedFor
  offOperation : next.offOperation = controller.offOperation
  offOperations : next.offOperations = controller.offOperations
  offProvenAt : next.offProvenAt = controller.offProvenAt
  dispatches : next.dispatches = controller.dispatches
  lastSummary : next.lastSummary = controller.lastSummary
  actuatorChanges : next.actuatorChanges = controller.actuatorChanges
  locked : next.locked = controller.locked

theorem Quiet.sameCore {controller next : ZoneController} (quiet : Quiet controller next) :
    SameCore controller next :=
  ⟨quiet.zoneId, quiet.safetyRecordId, quiet.state, quiet.session, quiet.offRequested,
    quiet.offRequestedFor, quiet.offOperation, by rw [quiet.offOperations]⟩

theorem Quiet.trans {first second third : ZoneController} (left : Quiet first second)
    (right : Quiet second third) : Quiet first third where
  zoneId := right.zoneId.trans left.zoneId
  safetyRecordId := right.safetyRecordId.trans left.safetyRecordId
  state := right.state.trans left.state
  session := right.session.trans left.session
  activeFault := right.activeFault.trans left.activeFault
  secondaryFault := right.secondaryFault.trans left.secondaryFault
  enabled := right.enabled.trans left.enabled
  offRequested := right.offRequested.trans left.offRequested
  offRequestedFor := right.offRequestedFor.trans left.offRequestedFor
  offOperation := right.offOperation.trans left.offOperation
  offOperations := right.offOperations.trans left.offOperations
  offProvenAt := right.offProvenAt.trans left.offProvenAt
  dispatches := right.dispatches.trans left.dispatches
  lastSummary := right.lastSummary.trans left.lastSummary
  actuatorChanges := right.actuatorChanges.trans left.actuatorChanges
  locked := right.locked.trans left.locked

theorem Quiet.refl (controller : ZoneController) : Quiet controller controller := by
  constructor <;> rfl

variable (controller : ZoneController)

theorem rollDaily_quiet (calendar : LocalCalendar) (now : Instant) :
    Quiet controller (controller.rollDaily calendar now) := by
  unfold rollDaily
  split
  · exact .refl _
  · constructor <;> rfl

@[simp] theorem ahead_unlocked : ({ controller with locked := none } : ZoneController).ahead = [] :=
  rfl

theorem ahead_of_unlocked {controller : ZoneController} (unlocked : controller.locked = none) :
    controller.ahead = [] := by
  simp [ahead, unlocked]

theorem ahead_congr {controller next : ZoneController} (locked : next.locked = controller.locked) :
    next.ahead = controller.ahead := by
  simp [ahead, locked]

/-! ## Pieces that keep the core -/

theorem setOffPhase_sameCore (operation : Nat) (phase : OffPhase) :
    SameCore controller (controller.setOffPhase operation phase) := by
  refine ⟨rfl, rfl, rfl, rfl, rfl, rfl, rfl, ?_⟩
  refine List.ext_getElem? fun i => ?_
  simp only [setOffPhase, List.getElem?_map, List.getElem?_modify]
  cases controller.offOperations[i]? with
  | none => simp
  | some current =>
    simp only [Option.map_some]
    split <;> rfl

theorem ensureSessionTask_sameCore : SameCore controller controller.ensureSessionTask := by
  constructor <;> rfl

theorem applyFinish_sameCore : SameCore controller controller.applyFinish := by
  unfold applyFinish
  split
  · exact controller.ensureSessionTask_sameCore
  · exact .refl _

theorem offServiceReturned_sameCore (now : Instant) (operation left : Nat)
    (reading : ActuatorAssessment) :
    SameCore controller (controller.offServiceReturned now operation left reading) := by
  have read : SameCore controller { controller with assessment := reading } := by
    constructor <;> rfl
  unfold offServiceReturned
  simp only
  split
  · exact read.trans (setOffPhase_sameCore _ _ _)
  · exact read.trans (setOffPhase_sameCore _ _ _)

theorem offProofEnded_sameCore (now : Instant) (operation left : Nat) :
    SameCore controller (controller.offProofEnded now operation left) := by
  unfold offProofEnded
  split
  · exact setOffPhase_sameCore _ _ _
  · exact setOffPhase_sameCore _ _ _

/-- The end of an application keeps the core and leaves nothing ahead. -/
theorem afterApply_sameCore (applier : Applier) (raised : Bool) :
    SameCore controller (controller.afterApply applier raised) ∧
      (controller.afterApply applier raised).ahead = [] := by
  have released : SameCore controller { controller with locked := none } := by
    constructor <;> rfl
  cases applier with
  | event => exact ⟨released, rfl⟩
  | slot => exact ⟨by constructor <;> rfl, rfl⟩
  | offOperation operation =>
    simp only [afterApply]
    split
    · exact ⟨released, rfl⟩
    · rename_i current _
      have phased := released.trans (setOffPhase_sameCore _ operation
        (current.phase.afterDispatch raised))
      split
      · exact ⟨phased.trans (by constructor <;> rfl), rfl⟩
      · exact ⟨phased, rfl⟩
  | refusal => exact ⟨by constructor <;> rfl, rfl⟩
  | confirmation =>
    cases raised with
    | true => exact ⟨by constructor <;> rfl, rfl⟩
    | false => exact ⟨by constructor <;> rfl, rfl⟩

/-! ## Deciding -/

/-- A decision either ends at once, or is adopted with all its actions ahead. -/
theorem decideAndApply_cases (shared : SharedState) (event : ControllerEvent) (applier : Applier)
    (sessionId : String) :
    (∃ raised, controller.decideAndApply shared event applier sessionId =
      (controller.rollDaily shared.calendar shared.now).afterApply applier raised) ∨
    ∃ decision,
      let input := (controller.rollDaily shared.calendar shared.now).buildInput shared event
        sessionId
      StateMachine.SessionEffect input decision ∧
      (StateMachine.decide input = .ok decision ∧ decision.noOp = false) ∧
      controller.decideAndApply shared event applier sessionId =
        { (controller.rollDaily shared.calendar shared.now).applyPrelude shared decision input with
          locked := some (.applying decision input decision.actions applier) } := by
  simp only [decideAndApply]
  split
  · exact .inl ⟨true, rfl⟩
  · rename_i decision decided
    split
    · exact .inl ⟨false, rfl⟩
    · rename_i acts
      exact .inr ⟨decision, StateMachine.decide_effect decided,
        ⟨decided, by simpa using acts⟩, rfl⟩

/-- Adoption, seen from the controller before the decision. -/
theorem applyPrelude_rolled (shared : SharedState) (decision : Decision)
    (input : TransitionInput) :
    let next := (controller.rollDaily shared.calendar shared.now).applyPrelude shared decision input
    Frame controller next ∧
      next.session = (if decision.clearSession then none else decision.session.or controller.session)
      ∧ next.state = decision.newState.getD controller.state := by
  have rolled := controller.rollDaily_sameDecided shared.calendar shared.now
  exact ⟨rolled.toFrame.trans (applyPrelude_frame _ _ _ _), by simp [rolled.session],
    by simp [rolled.state]⟩

/-! ## Acting -/

/-- Every action but the two requests is quiet. -/
theorem applyAction_quiet (shared : SharedState) (action : Action) (saved : Bool)
    (notOn : action ≠ turnOn) (notOff : StateMachine.isExecuteOff action = false) :
    Quiet controller (controller.applyAction shared action saved).1.1 := by
  cases action with
  | turnOn => exact absurd rfl notOn
  | executeOff defensive => cases notOff
  | persistState tag =>
    have same := controller.rollDaily_quiet shared.calendar shared.now
    simp only [applyAction]
    split <;> exact same
  | requestSlot =>
    simp only [applyAction, ensureSlotRequest]
    split <;> constructor <;> rfl
  | _ => constructor <;> rfl

/-- What a failed safety write leaves: FAULT, the same pulse, nothing else touched but the
OFF request. -/
theorem handlePersistFailure_spec :
    let failed := controller.handlePersistFailure
    failed.state = .fault ∧ failed.zoneId = controller.zoneId ∧
      failed.safetyRecordId = controller.safetyRecordId ∧
      failed.offOperation = controller.offOperation ∧
      failed.offOperations = controller.offOperations ∧
      failed.locked = controller.locked ∧
      failed.session = controller.session.map (fun session =>
        { session with pendingTerminationReason :=
            session.pendingTerminationReason.or (some .actuatorFault) }) ∧
      (failed.offRequested = controller.offRequested ∧
          failed.offRequestedFor = controller.offRequestedFor ∨
        failed.offRequested = true ∧
          failed.offRequestedFor = controller.session.map SessionContext.pulse) := by
  unfold handlePersistFailure
  simp only
  split
  · exact ⟨rfl, rfl, rfl, rfl, rfl, rfl, rfl, .inl ⟨rfl, rfl⟩⟩
  · refine ⟨rfl, rfl, rfl, rfl, rfl, rfl, rfl, .inr ⟨rfl, ?_⟩⟩
    cases controller.session <;> rfl

/-! ## Compensating -/

/-- The event of a compensation cannot start a pulse: a report it replays is not valid. -/
theorem compensationEvent_mayStart {controller : ZoneController} {now : Instant}
    {session : SessionContext} {configurationChanged serviceFailed : Bool}
    (may : StateMachine.mayStart
      (controller.compensationEvent now session configurationChanged serviceFailed) = true) :
    controller.compensationEvent now session configurationChanged serviceFailed =
      .moistureReport controller.observation ∧ controller.observation.classification ≠ .valid := by
  unfold compensationEvent at may ⊢
  split at may
  · cases may
  · split at may
    · cases may
    · split at may
      · split at may
        · cases may
        · split at may
          · rename_i invalid
            simp_all
          · cases may
      · cases may

theorem compensationEvent_ne_startup {controller : ZoneController} {now : Instant}
    {session : SessionContext} {configurationChanged serviceFailed : Bool}
    {finding : ActuatorFinding} :
    controller.compensationEvent now session configurationChanged serviceFailed ≠
      .startupPersistedWatering finding := by
  unfold compensationEvent
  split
  · simp
  · split
    · simp
    · split
      · split
        · simp
        · split <;> simp
      · simp

theorem markEstimated_spec (session : SessionContext) (held : controller.session = some session) :
    Frame controller (controller.markEstimated session) ∧
      (controller.markEstimated session).state = controller.state ∧
      ∃ marked, (controller.markEstimated session).session = some marked ∧
        marked.pulse = session.pulse ∧ marked.openPulse = session.openPulse ∧
        marked.pendingTerminationReason = session.pendingTerminationReason := by
  unfold markEstimated
  split
  · exact ⟨.refl _, rfl, session, held, rfl, rfl, rfl⟩
  · exact ⟨by constructor <;> rfl, rfl, _, rfl, rfl, rfl, rfl⟩

theorem adoptNow_spec (decision : Decision) :
    Frame controller (controller.adoptNow decision) ∧
      (controller.adoptNow decision).session = decision.session.or controller.session ∧
      (controller.adoptNow decision).state = decision.newState.getD controller.state := by
  unfold adoptNow
  simp only
  split
  · exact ⟨by constructor <;> rfl, rfl, rfl⟩
  · exact ⟨by constructor <;> rfl, rfl, rfl⟩

/-- A compensation stays within the pulse, and when it commits a termination in WATERING
it does not raise. -/
theorem commitOnCompensationNow_spec (shared : SharedState)
    (configurationChanged serviceFailed : Bool) :
    let result := controller.commitOnCompensationNow shared configurationChanged serviceFailed
    Frame controller result.1 ∧
      (controller.session = none → result.1.session = none ∧ result.1.state = controller.state) ∧
      ∀ session, controller.session = some session → ∃ after, result.1.session = some after ∧
        after.pulse = session.pulse ∧ (after.openPulse = true → session.openPulse = true) ∧
        (result.1.state = .watering → controller.state = .watering ∧
          (after.pendingTerminationReason = session.pendingTerminationReason ∨
            result.2 = false)) := by
  unfold commitOnCompensationNow
  cases held : controller.session with
  | none => exact ⟨.refl _, fun _ => ⟨held, rfl⟩, by simp⟩
  | some session =>
    obtain ⟨markedFrame, markedState, marked, markedSession, pulse, opened, pending⟩ :=
      controller.markEstimated_spec session held
    have rolled := (controller.markEstimated session).rollDaily_sameDecided shared.calendar
      shared.now
    have frame := markedFrame.trans rolled.toFrame
    -- Until a decision is adopted the session is only marked.
    have unchanged : ∀ raised : Bool, ∃ after,
        ((controller.markEstimated session).rollDaily shared.calendar shared.now).session =
          some after ∧ after.pulse = session.pulse ∧
        (after.openPulse = true → session.openPulse = true) ∧
        (((controller.markEstimated session).rollDaily shared.calendar shared.now).state =
          .watering → controller.state = .watering ∧
          (after.pendingTerminationReason = session.pendingTerminationReason ∨
            raised = false)) := fun raised =>
      ⟨marked, by rw [rolled.session, markedSession], pulse, fun open' => opened ▸ open',
        fun watering => ⟨by rw [← markedState, ← rolled.state, watering], .inl pending⟩⟩
    simp only [reduceCtorEq, false_implies, true_and, Option.some.injEq, forall_eq']
    split
    · exact ⟨frame, unchanged true⟩
    · rename_i decision decided
      split
      · exact ⟨frame, unchanged false⟩
      · obtain ⟨adopted, session', state'⟩ := adoptNow_spec
          ((controller.markEstimated session).rollDaily shared.calendar shared.now) decision
        refine ⟨frame.trans adopted, ?_⟩
        rw [session', state', rolled.session, markedSession, rolled.state, markedState]
        have effect := StateMachine.decide_effect decided
        cases effect with
        | starts _ _ _ _ _ allowed =>
          obtain ⟨may, fresh⟩ := allowed
          obtain ⟨event, invalid⟩ := compensationEvent_mayStart may
          simp only [buildInput, event, reduceCtorEq, exists_const, false_or,
            StateMachine.freshValid, rolled.observation, markedFrame.observation,
            Bool.and_eq_true, beq_iff_eq] at fresh
          exact absurd fresh.1 invalid
        | clears _ none' away =>
          refine ⟨marked, by rw [none']; rfl, pulse, fun open' => opened ▸ open',
            fun watering => absurd ?_ away⟩
          simpa [buildInput, rolled.state, markedState] using watering
        | updates before after input session'' _ samePulse open' _ _ committed =>
          obtain rfl : marked = before := by
            simpa [buildInput, rolled.session, markedSession] using input
          refine ⟨after, by rw [session'']; rfl, samePulse.trans pulse,
            fun opened' => opened ▸ open' opened', fun watering => ?_⟩
          obtain ⟨was, kind⟩ := committed
            (by simpa [buildInput, rolled.state, markedState] using watering)
          refine ⟨by simpa [buildInput, rolled.state, markedState] using was, ?_⟩
          rcases kind with same | ⟨-, only | ⟨finding, startup⟩⟩
          · exact .inl (same.trans pending)
          · refine .inr (List.any_eq_false.mpr fun action member => ?_)
            have committed := only action member
            cases action <;> simp_all [StateMachine.isCommitAction, isCompensationAction]
          · exact absurd startup compensationEvent_ne_startup
        | keeps none' _ _ _ stays =>
          refine ⟨marked, by rw [none']; rfl, pulse, fun open' => opened ▸ open',
            fun watering => ?_⟩
          have was := stays (by simpa [buildInput, rolled.state, markedState] using watering)
          exact ⟨by simpa [buildInput, rolled.state, markedState] using was, .inl pending⟩

/-! ## The shared OFF operation -/

/-- The history attributes of the operation the controller refers to. -/
def currentOrigin (controller : ZoneController) : Option (Option PulseId × Option PulseId) :=
  controller.offOperation.bind fun operation =>
    (controller.offOperations.map OffOperation.origin)[operation]?

theorem currentOrigin_eq :
    controller.currentOrigin = controller.currentOffOperation.map OffOperation.origin := by
  cases held : controller.offOperation <;> simp [currentOrigin, currentOffOperation, held]

theorem SameCore.currentOrigin {controller next : ZoneController}
    (same : SameCore controller next) : next.currentOrigin = controller.currentOrigin := by
  simp only [ZoneController.currentOrigin, same.offOperation, same.origins]

theorem newOffOperation_currentOrigin (requestedFor : Option PulseId) :
    (controller.newOffOperation requestedFor).currentOrigin =
      some (requestedFor, controller.session.map SessionContext.pulse) := by
  simp [currentOrigin, newOffOperation, OffOperation.origin]

/-- An operation is joined, or a new one is begun for the pulse the controller is in. -/
theorem beginOffOperation_cases (requestedFor : Option PulseId) :
    (controller.beginOffOperation requestedFor = controller ∧
      controller.currentOrigin.isSome = true) ∨
    controller.beginOffOperation requestedFor = controller.newOffOperation requestedFor := by
  unfold beginOffOperation
  split
  · rename_i joined
    refine .inl ⟨rfl, ?_⟩
    rw [currentOrigin_eq, Option.isSome_map]
    cases held : controller.currentOffOperation with
    | none => simp [held] at joined
    | some operation => rfl
  · exact .inr rfl

end ZoneController

end MoistureLoop
