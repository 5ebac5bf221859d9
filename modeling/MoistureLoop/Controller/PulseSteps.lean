import MoistureLoop.Controller.PulseWatch

/-! # Every step keeps the pulse watched

The OFF operation, the compensation of a lost ON command, the final gate with its rechecks,
and with them every step of a controller keep its flowing pulse watched, as long as no write
fails and no quiescing revokes the timers. -/

open MoistureLoop.Action

namespace MoistureLoop

/-- What the entry answers to the final gate, or to a recheck, in this step. -/
def ControllerLabel.authority : ControllerLabel → Option OnAuthority
  | .gate authority | .serviceReturned _ authority | .reenter authority | .recheck authority =>
    some authority
  | _ => none

/-- A failed predicate that requires quiescing is one of the failed configuration predicates. -/
def OnAuthority.Sound (authority : OnAuthority) : Prop :=
  authority.requiresQuiescing = true → authority.failedAuthority ≠ []

/-- So the entry answers. -/
theorem EntryView.onAuthority_sound {κ : Type} [DecidableEq κ] (view : EntryView κ) (key : κ)
    (controller : ZoneController) (store : StoreData) (reading : ActuatorAssessment) :
    (view.onAuthority key controller store reading).Sound := by
  intro quiescing
  obtain ⟨failed, member, -⟩ := List.any_eq_true.mp quiescing
  exact List.ne_nil_of_mem (List.mem_map_of_mem member)

namespace ZoneController

variable {controller next : ZoneController} {shared shared' : SharedState}
  {fired : List (TimerKind × Instant)} {revoked : Bool} {pulse : SessionContext}
  {label : ControllerLabel} {sessionId : String}

/-! ## The shared OFF operation -/

theorem currentOffOperation_setOffPhase (operation : Nat) (phase : OffPhase) :
    (controller.setOffPhase operation phase).currentOffOperation =
        controller.currentOffOperation ∨
      ∃ before after, controller.currentOffOperation = some before ∧
        (controller.setOffPhase operation phase).currentOffOperation = some after ∧
        after.phase = phase := by
  cases current : controller.offOperation with
  | none => exact .inl (by simp [currentOffOperation, setOffPhase, current])
  | some own =>
    simp only [currentOffOperation, setOffPhase, current, Option.bind_some, List.getElem?_modify]
    cases controller.offOperations[own]? with
    | none => exact .inl rfl
    | some held =>
      by_cases same : operation = own
      · exact .inr ⟨held, { held with phase := phase }, rfl, by simp [same], rfl⟩
      · exact .inl (by simp [same])

/-- An OFF operation that moves on without settling goes on stopping the pulse. -/
theorem Bounded.setOffPhase (bounded : controller.Bounded fired revoked) (operation : Nat)
    {phase : OffPhase} (going : ∀ result, phase ≠ .done result) :
    (controller.setOffPhase operation phase).Bounded fired revoked := by
  rcases @currentOffOperation_setOffPhase controller operation phase with
    same | ⟨before, after, current, current', phased⟩
  · exact bounded.carry (.of_same rfl rfl rfl rfl rfl same (.inl rfl))
  · refine ⟨fun pulse flows => ?_, bounded.decided⟩
    obtain ⟨covered, planned, -, unsettled⟩ := bounded.watched pulse flows
    refine ⟨?_, planned, fun _ operation held => ?_, unsettled⟩
    · rw [current']
      rwa [current] at covered
    · obtain rfl := Option.some.inj (current'.symm.trans held)
      unfold OffOperation.isDone
      split
      · rename_i result done
        exact absurd (phased.symm.trans done) (going result)
      · rfl

theorem beginOffOperation_current (requestedFor : Option PulseId) :
    ∃ operation, (controller.beginOffOperation requestedFor).currentOffOperation = some operation ∧
      (controller.currentOffOperation = some operation ∨ operation.isDone = false) := by
  unfold beginOffOperation
  split
  · rename_i joined
    obtain ⟨operation, current, -⟩ := (Option.any_eq_true _ _).mp joined
    exact ⟨operation, current, .inl current⟩
  · refine ⟨⟨requestedFor, controller.session.map SessionContext.pulse,
      .commanding (offTotalAttempts - 1)⟩, ?_, .inr rfl⟩
    simp [currentOffOperation, newOffOperation]

/-- A pulse with an OFF operation of its own, or yet to be armed, is watched. -/
theorem Bounded.join (bounded : controller.Bounded fired revoked)
    (state : next.state = controller.state) (session : next.session = controller.session)
    (config : next.config = controller.config) (locked : next.locked = controller.locked)
    (joined : ∃ operation, next.currentOffOperation = some operation ∧
      (controller.currentOffOperation = some operation ∨ operation.isDone = false)) :
    next.Bounded fired revoked := by
  have ahead : next.ahead = controller.ahead := ahead_congr locked
  refine ⟨fun pulse flows => ?_, fun _ _ _ _ held => bounded.decided _ _ _ _ (locked ▸ held)⟩
  obtain ⟨-, planned, running, unsettled⟩ :=
    bounded.watched pulse (by rwa [Flows, state, session] at flows)
  obtain ⟨operation, current, origin⟩ := joined
  rw [← ahead, ← config] at planned
  refine ⟨?_, planned, fun silent other held => ?_, by rwa [locked]⟩
  · by_cases asks : turnOn ∈ next.ahead
    · have first : turnOn ∈ next.ahead.filter movesPulse := List.mem_filter.mpr ⟨asks, rfl⟩
      rcases planned with none' | ⟨timer, stop, single | pair⟩
      · rw [none'] at first
        cases first
      · rw [single] at first
        simp at first
      · have arms : armTimer timer.1 timer.2 ∈ next.ahead :=
          List.mem_of_mem_filter (show _ ∈ next.ahead.filter movesPulse by simp [pair])
        exact .inr (.inr (.inr (.inr ⟨timer, stop, .inr (.inr arms)⟩)))
    · exact .inr (.inr (.inl ⟨by simp [current], asks⟩))
  · obtain rfl := Option.some.inj (current.symm.trans held)
    rcases origin with same | going
    · exact running (ahead ▸ silent) operation same
    · exact going

theorem Bounded.beginOffOperation (bounded : controller.Bounded fired revoked)
    (requestedFor : Option PulseId) :
    (controller.beginOffOperation requestedFor).Bounded fired revoked := by
  refine bounded.join ?_ ?_ ?_ ?_ (beginOffOperation_current requestedFor) <;>
  · unfold ZoneController.beginOffOperation
    split <;> rfl

theorem Bounded.ensureOffOperation (bounded : controller.Bounded fired revoked)
    (requestedFor : Option PulseId) (compensating : Bool) :
    (controller.ensureOffOperation requestedFor compensating).Bounded fired revoked := by
  have joined := @beginOffOperation_current { controller with offRequested := false } requestedFor
  refine bounded.join ?_ ?_ ?_ ?_ joined <;>
  · unfold ZoneController.ensureOffOperation ZoneController.beginOffOperation
    simp only
    split <;> rfl

/-! ## Compensating -/

theorem markEstimated_carries {session : SessionContext}
    (held : controller.session = some session) :
    Carries controller (controller.markEstimated session) := by
  unfold markEstimated
  split
  · exact .refl _
  · refine ⟨.inl rfl, fun pulse flows => ⟨session, ⟨flows.watering, held, ?_⟩, ?_, rfl, rfl, rfl⟩⟩
    · obtain rfl := Option.some.inj flows.held
      exact flows.uncommitted
    · obtain rfl := Option.some.inj flows.held
      rfl

/-- A compensation starts no pulse: a report it replays is not valid. -/
theorem compensation_silent {decision : Decision} {session : SessionContext}
    {marked : ZoneController} {configurationChanged serviceFailed : Bool}
    (observed : marked.observation = controller.observation)
    (decided : StateMachine.decide (marked.buildInput shared (controller.compensationEvent
      shared.now session configurationChanged serviceFailed) "") = .ok decision) :
    turnOn ∉ decision.actions := by
  cases StateMachine.decide_effect decided with
  | starts _ _ _ _ _ allowed =>
    obtain ⟨may, fresh⟩ := allowed
    obtain ⟨event, invalid⟩ := compensationEvent_mayStart may
    simp only [buildInput, event, reduceCtorEq, exists_const, false_or, StateMachine.freshValid,
      observed, Bool.and_eq_true, beq_iff_eq] at fresh
    exact absurd fresh.1 invalid
  | clears _ _ _ silent | updates _ _ _ _ _ _ _ silent | keeps _ _ silent => exact silent

theorem compensationEvent_ne_onConfirmed {now atUtc : Instant} {session : SessionContext}
    {configurationChanged serviceFailed : Bool} :
    controller.compensationEvent now session configurationChanged serviceFailed ≠
      .onConfirmed atUtc := by
  unfold compensationEvent
  repeat' split
  all_goals simp

/-- A decision that neither starts nor confirms a pulse carries it, also without its actions. -/
theorem adoptNow_carries {decision : Decision} {event : ControllerEvent}
    (decided : StateMachine.decide (controller.buildInput shared event sessionId) = .ok decision)
    (silent : turnOn ∉ decision.actions) (other : ∀ atUtc, event ≠ .onConfirmed atUtc) :
    Carries controller (controller.adoptNow decision) ∧ ∀ pulse,
      (controller.adoptNow decision).Flows pulse →
      Flowing (decision.newState.getD controller.state) (decision.leaves controller.session)
        pulse := by
  obtain ⟨frame, session, state⟩ := controller.adoptNow_spec decision
  have left : ∀ pulse, (controller.adoptNow decision).Flows pulse →
      Flowing (decision.newState.getD controller.state) (decision.leaves controller.session)
        pulse := by
    rintro pulse ⟨watering, held, uncommitted⟩
    rw [state] at watering
    have uncleared : decision.clearSession = false := by
      cases StateMachine.decide_effect decided with
      | starts _ _ uncleared => exact uncleared
      | clears _ _ away => exact absurd watering away
      | updates _ _ _ _ uncleared => exact uncleared
      | keeps _ uncleared => exact uncleared
    refine ⟨watering, ?_, uncommitted⟩
    rw [Decision.leaves, if_neg (by simp [uncleared]), ← session]
    exact held
  refine ⟨⟨.inl frame.locked, fun pulse flows => ?_⟩, left⟩
  have timers : (controller.adoptNow decision).timers = controller.timers := by
    have watering := flows.watering
    rw [state] at watering
    unfold adoptNow
    simp only [watering, ne_eq, not_true, and_false, if_false]
  have operation : (controller.adoptNow decision).currentOffOperation =
      controller.currentOffOperation := by
    simp only [currentOffOperation, frame.offOperation, frame.offOperations]
  cases StateMachine.decide_flowStep decided (left pulse flows) with
  | starts _ _ moves =>
    exact absurd (List.mem_of_mem_filter (show turnOn ∈ decision.actions.filter movesPulse by
      simp [moves])) silent
  | confirms _ confirmed => exact absurd confirmed (other _)
  | keeps flowed stop =>
    exact ⟨_, flowed, by rw [frame.config]; exact stop, timers, frame.offRequested, operation⟩

/-- A compensation keeps the pulse as it is or ends it; on a changed configuration it ends. -/
theorem commitOnCompensationNow_carries (configurationChanged serviceFailed : Bool) :
    let committed :=
      (controller.commitOnCompensationNow shared configurationChanged serviceFailed).1
    Carries controller committed ∧
      (configurationChanged = true → ∀ pulse, ¬ committed.Flows pulse) := by
  unfold commitOnCompensationNow
  cases held : controller.session with
  | none =>
    refine ⟨.refl _, fun _ pulse flows => ?_⟩
    have own : controller.session = some pulse := flows.held
    rw [held] at own
    cases own
  | some session =>
    have observed : ((controller.markEstimated session).rollDaily shared.calendar
        shared.now).observation = controller.observation := by
      rw [((controller.markEstimated session).rollDaily_sameDecided shared.calendar
        shared.now).observation]
      unfold markEstimated
      split <;> rfl
    have marked := (markEstimated_carries held).trans
      (@rollDaily_carries (controller.markEstimated session) shared.calendar shared.now)
    simp only
    generalize (controller.markEstimated session).rollDaily shared.calendar shared.now = rolled
      at marked observed ⊢
    have settles : configurationChanged = true → ∀ before, rolled.Flows before → ∃ decision,
        StateMachine.decide (rolled.buildInput shared (controller.compensationEvent shared.now
          session configurationChanged serviceFailed) "") = .ok decision ∧
        decision.noOp = false ∧ ∀ after, ¬ Flowing (decision.newState.getD rolled.state)
          (decision.leaves rolled.session) after := by
      intro changed before flowed
      refine @StateMachine.decide_settles (rolled.buildInput shared _ "") before flowed ?_
      rw [changed]
      rfl
    split
    · rename_i err failed
      refine ⟨marked, fun changed pulse flows => ?_⟩
      obtain ⟨decision, decided, -, -⟩ := settles changed pulse flows
      simp [failed] at decided
    · rename_i decision decided
      split
      · rename_i ignored
        refine ⟨marked, fun changed pulse flows => ?_⟩
        obtain ⟨other, decided', acts, -⟩ := settles changed pulse flows
        obtain rfl := Except.ok.inj (decided.symm.trans decided')
        simp [ignored] at acts
      · obtain ⟨carries, left⟩ := adoptNow_carries decided (compensation_silent observed decided)
          fun atUtc => compensationEvent_ne_onConfirmed
        refine ⟨marked.trans carries, fun changed pulse flows => ?_⟩
        obtain ⟨before, flowed, -⟩ := carries.carried pulse flows
        obtain ⟨other, decided', -, none'⟩ := settles changed before flowed
        obtain rfl := Except.ok.inj (decided.symm.trans decided')
        exact none' pulse (left pulse flows)

/-- A compensation is watched again; on a changed configuration whatever was before. -/
theorem compensate_bounded {configurationChanged : Bool} (serviceFailed : Bool)
    (bounded : configurationChanged = true ∧ (∀ decision input rest applier,
        controller.locked = some (.applying decision input rest applier) →
        StateMachine.decide input = .ok decision) ∨
      controller.Bounded fired revoked) :
    (controller.compensate shared configurationChanged serviceFailed).Bounded fired revoked := by
  obtain ⟨carries, ended⟩ := @commitOnCompensationNow_carries controller shared
    configurationChanged serviceFailed
  have committed : (controller.commitOnCompensationNow shared configurationChanged
      serviceFailed).1.Bounded fired revoked := by
    rcases bounded with ⟨changed, decided⟩ | bounded
    · refine .of_stopped (ended changed) fun decision input rest applier held => ?_
      rcases carries.locked with same | ⟨-, resting⟩
      · exact decided decision input rest applier (same ▸ held)
      · simp [applying, held] at resting
    · exact bounded.carry carries
  simp only [compensate]
  split
  · exact committed.carry (.of_same rfl rfl rfl rfl rfl rfl (.inl rfl))
  · exact committed.ensureOffOperation _ _

/-! ## The ON command -/

/-- Quiescing is required only when the configuration authority is lost. -/
theorem invalid_of_requiresQuiescing {authority : OnAuthority} {ownId : String}
    {preDispatch : Bool} (sound : authority.Sound)
    (required : (controller.evaluateOnAuthority shared ownId preDispatch
      authority).requiresQuiescing = true) :
    (controller.evaluateOnAuthority shared ownId preDispatch
      authority).configurationAuthorityValid = false := by
  simp only [evaluateOnAuthority, Bool.or_eq_true, Bool.not_eq_true'] at required
  simp only [evaluateOnAuthority, List.isEmpty_eq_false_iff]
  rcases required with quiescing | closed
  · simp [sound quiescing]
  · simp [closed]

theorem recheckOn_bounded {marker : InFlightOn} {authority : OnAuthority} {serviceFailed : Bool}
    {continued : ZoneController → ZoneController} (sound : authority.Sound)
    (bounded : controller.Bounded fired revoked)
    (goesOn : (continued controller).Bounded fired revoked) :
    (controller.recheckOn shared marker authority serviceFailed continued).Bounded fired
      revoked := by
  simp only [recheckOn]
  split
  · by_cases required : (controller.evaluateOnAuthority shared marker.sessionId false
        authority).requiresQuiescing = true
    · refine compensate_bounded serviceFailed (.inl ⟨?_, ?_⟩)
      · rw [invalid_of_requiresQuiescing sound required]
        rfl
      · rw [quiesceIf, if_pos required]
        exact bounded.decided
    · refine compensate_bounded serviceFailed (.inr ?_)
      rwa [quiesceIf, if_neg required]
  · exact goesOn

theorem Bounded.gate (bounded : controller.Bounded fired revoked) (authority : OnAuthority)
    (sound : authority.Sound) (unlocked : controller.locked = none) :
    (controller.gate shared authority sessionId).Bounded fired revoked := by
  have resting := applying_of_unlocked unlocked
  unfold ZoneController.gate
  split
  · exact bounded.carry (.of_same rfl rfl rfl rfl rfl rfl (.inl rfl))
  · split
    · exact bounded.carry (.of_same rfl rfl rfl rfl rfl rfl (.inl rfl))
    · have refusing : ({ controller with sessionTask := some .refusing } :
          ZoneController).Bounded fired revoked :=
        bounded.carry (.of_same rfl rfl rfl rfl rfl rfl (.inl rfl))
      have refreshed : ({ controller with
          sessionTask := some .refusing
          assessment := authority.reading } : ZoneController).Bounded fired revoked :=
        bounded.carry (.of_same rfl rfl rfl rfl rfl rfl (.inl rfl))
      simp only
      split
      · exact refusing.decideAndApply _ (by simp) resting
      · split
        · exact bounded.carry (.of_same rfl rfl rfl rfl rfl rfl (.inl rfl))
        · rename_i session _ _ _ _ _
          by_cases required : (controller.evaluateOnAuthority shared session.sessionId true
              authority).requiresQuiescing = true
          · refine decideAndApply_settled .refusal ?_
            unfold finalGateRefusalEvent
            rw [invalid_of_requiresQuiescing sound required]
            rfl
          · rw [quiesceIf, if_neg required]
            exact refreshed.decideAndApply _ (by simp) resting

theorem Bounded.handlePersistFailure (bounded : controller.Bounded fired revoked) :
    controller.handlePersistFailure.Bounded fired revoked := by
  obtain ⟨state, -, -, -, -, locked, -⟩ := controller.handlePersistFailure_spec
  refine bounded.carry (.of_stopped (.inl locked) fun pulse flows => ?_)
  have watering := flows.watering
  rw [state] at watering
  cases watering

theorem Bounded.anchor (bounded : controller.Bounded fired revoked) (saved : Bool)
    (locked : controller.locked = some .persistingCommand) :
    (controller.anchor shared saved).1.Bounded fired revoked := by
  have resting : controller.applying = false := by simp [applying, locked]
  have rolled := bounded.carry (@rollDaily_carries controller shared.calendar shared.now)
  have resting' : (controller.rollDaily shared.calendar shared.now).applying = false := by
    rw [applying, (controller.rollDaily_sameDecided shared.calendar shared.now).locked]
    exact resting
  have released : ({ controller.rollDaily shared.calendar shared.now with locked := none } :
      ZoneController).Bounded fired revoked :=
    rolled.carry (.of_same rfl rfl rfl rfl rfl rfl (.inr ⟨resting', rfl⟩))
  simp only [ZoneController.anchor]
  split
  · exact rolled.carry (.of_same rfl rfl rfl rfl rfl rfl (.inr ⟨resting', rfl⟩))
  · exact compensate_bounded true (.inr released.handlePersistFailure)
  · exact released.carry (.of_same rfl rfl rfl rfl rfl rfl (.inl rfl))

theorem recordPossibleCommand_carries (marker : InFlightOn) :
    Carries controller (controller.recordPossibleCommand marker) := by
  refine ⟨.inl rfl, fun pulse flows => ?_⟩
  obtain ⟨before, held, recorded⟩ := Option.map_eq_some_iff.mp flows.held
  have uncommitted := flows.uncommitted
  refine ⟨before, ⟨flows.watering, held, ?_⟩, ?_, rfl, rfl, rfl⟩
  · subst recorded
    split at uncommitted <;> exact uncommitted
  · subst recorded
    split <;> rfl

/-! ## Steps -/

theorem Bounded.sessionStep (bounded : controller.Bounded fired revoked)
    (sound : ∀ authority, label.authority = some authority → authority.Sound)
    (stepped : controller.sessionStep shared label sessionId = some (next, shared')) :
    next.Bounded fired revoked := by
  unfold ZoneController.sessionStep at stepped
  split at stepped
  · obtain ⟨woken, wakes, same⟩ := Option.map_eq_some_iff.mp stepped
    obtain ⟨rfl, -⟩ := Prod.mk.inj same
    unfold wake at wakes
    split at wakes
    · obtain rfl := Option.some.inj wakes
      exact bounded.carry (.of_same rfl rfl rfl rfl rfl rfl (.inl rfl))
    · split at wakes
      · obtain rfl := Option.some.inj wakes
        exact bounded.ensureOffOperation _ _
      · split at wakes
        · obtain rfl := Option.some.inj wakes
          exact bounded.carry (.of_same rfl rfl rfl rfl rfl rfl (.inl rfl))
        · cases wakes
  · rename_i authority _ unlocked
    obtain ⟨rfl, -⟩ := Prod.mk.inj (Option.some.inj stepped)
    exact bounded.gate authority (sound authority rfl) unlocked
  · rename_i raised authority marker _ _
    obtain ⟨rfl, -⟩ := Prod.mk.inj (Option.some.inj stepped)
    have recorded := bounded.carry (recordPossibleCommand_carries marker)
    exact recheckOn_bounded (sound authority rfl) recorded
      (recorded.carry (.of_same rfl rfl rfl rfl rfl rfl (.inl rfl)))
  · rename_i authority marker _ unlocked _
    obtain ⟨rfl, -⟩ := Prod.mk.inj (Option.some.inj stepped)
    exact recheckOn_bounded (sound authority rfl) bounded
      (bounded.carry (.of_same rfl rfl rfl rfl rfl rfl (.inr ⟨applying_of_unlocked unlocked, rfl⟩)))
  · rename_i saved _ locked
    have anchored := @Bounded.anchor controller shared fired revoked bounded saved locked
    rwa [show controller.anchor shared saved = (next, shared') from Option.some.inj stepped]
      at anchored
  · rename_i authority confirmed marker _ locked _
    obtain ⟨rfl, -⟩ := Prod.mk.inj (Option.some.inj stepped)
    have released : ({ controller with locked := none } : ZoneController).Bounded fired revoked :=
      bounded.carry (.of_same rfl rfl rfl rfl rfl rfl (.inr ⟨by simp [applying, locked], rfl⟩))
    refine recheckOn_bounded (sound authority rfl) released ?_
    unfold afterRecheck
    split
    · exact released.decideAndApply _ (by simp) rfl
    · exact released.carry (.of_same rfl rfl rfl rfl rfl rfl (.inl rfl))
  · split at stepped
    · obtain ⟨rfl, -⟩ := Prod.mk.inj (Option.some.inj stepped)
      exact bounded.carry (.of_same rfl rfl rfl rfl rfl rfl (.inl rfl))
    · cases stepped
  · cases stepped

theorem Bounded.slotStep (bounded : controller.Bounded fired revoked)
    (stepped : controller.slotStep shared label sessionId = some (next, shared')) :
    next.Bounded fired revoked := by
  unfold ZoneController.slotStep at stepped
  split at stepped
  · obtain ⟨rfl, -⟩ := Prod.mk.inj (Option.some.inj stepped)
    exact bounded.carry (.of_same rfl rfl rfl rfl rfl rfl (.inl rfl))
  · split at stepped
    · split at stepped <;>
      · obtain ⟨rfl, -⟩ := Prod.mk.inj (Option.some.inj stepped)
        exact bounded.carry (.of_same rfl rfl rfl rfl rfl rfl (.inl rfl))
    · cases stepped
  · split at stepped
    · rename_i unlocked
      obtain ⟨rfl, -⟩ := Prod.mk.inj (Option.some.inj stepped)
      exact bounded.decideAndApply _ (by simp) (applying_of_unlocked unlocked)
    · cases stepped
  · obtain ⟨rfl, -⟩ := Prod.mk.inj (Option.some.inj stepped)
    exact bounded.carry (.of_same rfl rfl rfl rfl rfl rfl (.inl rfl))
  · cases stepped

theorem Bounded.actuatorStep (bounded : controller.Bounded fired revoked)
    (stepped : controller.actuatorStep shared label sessionId = some (next, shared')) :
    next.Bounded fired revoked := by
  unfold ZoneController.actuatorStep at stepped
  split at stepped
  · obtain ⟨rfl, -⟩ := Prod.mk.inj (Option.some.inj stepped)
    exact bounded.carry (.of_same rfl rfl rfl rfl rfl rfl (.inl rfl))
  · rename_i unlocked
    have resting := applying_of_unlocked unlocked
    split at stepped
    · cases stepped
    · rename_i change rest _
      have taken : ({ controller with actuatorChanges := rest } : ZoneController).Bounded fired
          revoked := bounded.carry (.of_same rfl rfl rfl rfl rfl rfl (.inl rfl))
      simp only at stepped
      split at stepped
      · obtain ⟨rfl, -⟩ := Prod.mk.inj (Option.some.inj stepped)
        exact taken
      · obtain ⟨rfl, -⟩ := Prod.mk.inj (Option.some.inj stepped)
        exact taken.decideAndApply _ (by simp) resting
      · obtain ⟨rfl, -⟩ := Prod.mk.inj (Option.some.inj stepped)
        exact taken.carry (.of_same rfl rfl rfl rfl rfl rfl (.inr ⟨resting, rfl⟩))
  · rename_i saved change active locked
    have released : ({ controller with locked := none } : ZoneController).Bounded fired revoked :=
      bounded.carry (.of_same rfl rfl rfl rfl rfl rfl (.inr ⟨by simp [applying, locked], rfl⟩))
    split at stepped
    · obtain ⟨rfl, -⟩ := Prod.mk.inj (Option.some.inj stepped)
      exact released
    · simp only at stepped
      split at stepped
      · obtain ⟨rfl, -⟩ := Prod.mk.inj (Option.some.inj stepped)
        exact released.decideAndApply _ (by simp) rfl
      · obtain ⟨rfl, -⟩ := Prod.mk.inj (Option.some.inj stepped)
        exact released
  · cases stepped

theorem Bounded.offStep (bounded : controller.Bounded fired revoked)
    (stepped : controller.offStep shared label sessionId = some next) :
    next.Bounded fired revoked := by
  unfold ZoneController.offStep at stepped
  split at stepped
  · rename_i operation reading
    split at stepped
    · obtain rfl := Option.some.inj stepped
      have read : ({ controller with assessment := reading } : ZoneController).Bounded fired
          revoked := bounded.carry (.of_same rfl rfl rfl rfl rfl rfl (.inl rfl))
      unfold offServiceReturned
      simp only
      split
      · exact read.setOffPhase operation (by simp)
      · exact read.setOffPhase operation (by simp)
    · cases stepped
  · rename_i operation
    split at stepped
    · obtain rfl := Option.some.inj stepped
      unfold offProofEnded
      split
      · exact bounded.setOffPhase operation (by simp)
      · refine bounded.setOffPhase operation ?_
        split <;> simp
    · cases stepped
  · rename_i operation
    split at stepped
    · obtain rfl := Option.some.inj stepped
      exact bounded.setOffPhase operation (by simp)
    · obtain rfl := Option.some.inj stepped
      exact bounded.setOffPhase operation (by simp)
    · cases stepped
  · split at stepped
    · split at stepped
      · obtain rfl := Option.some.inj stepped
        refine decideAndApply_settled _ ?_
        split <;> rfl
      · obtain rfl := Option.some.inj stepped
        exact decideAndApply_settled _ rfl
      · cases stepped
    · cases stepped
  · cases stepped

/-- The next action of the application raises nothing: every write it makes succeeds. -/
def WriteSucceeds (controller : ZoneController) (shared : SharedState) : ControllerLabel → Prop
  | .act saved =>
    controller.ahead.head?.all
      (fun action => decide ((controller.applyAction shared action saved).2 = none)) = true
  | _ => True

instance (controller : ZoneController) (shared : SharedState) (label : ControllerLabel) :
    Decidable (controller.WriteSucceeds shared label) := by
  unfold WriteSucceeds
  split <;> infer_instance

theorem Bounded.mono (bounded : controller.Bounded fired revoked) {lost : Bool}
    (weaker : revoked = true → lost = true) : controller.Bounded fired lost := by
  refine ⟨fun pulse flows => ?_, bounded.decided⟩
  obtain ⟨covered, planned, running, unsettled⟩ := bounded.watched pulse flows
  exact ⟨covered.imp weaker id, planned, running, unsettled⟩

/-- A step in which no write fails keeps the pulse watched, if its timers are not revoked. -/
theorem Bounded.step (bounded : controller.Bounded fired revoked)
    (sound : ∀ authority, label.authority = some authority → authority.Sound)
    (written : controller.WriteSucceeds shared label)
    (lost : label = .quiesce → revoked = true)
    (stepped : controller.step shared label sessionId = some (next, shared')) :
    next.Bounded fired revoked := by
  cases label with
  -- What is decided under the lock arms the timers anew.
  | dispatch event =>
    simp only [ZoneController.step] at stepped
    split at stepped
    · rename_i free
      obtain ⟨rfl, -⟩ := Prod.mk.inj (Option.some.inj stepped)
      exact bounded.decideAndApply event (by simp) (applying_of_unlocked free.1)
    · cases stepped
  | setEnabled enabled =>
    simp only [ZoneController.step] at stepped
    split at stepped
    · rename_i unlocked
      obtain ⟨rfl, -⟩ := Prod.mk.inj (Option.some.inj stepped)
      have toggled : ({ controller with enabled := enabled } : ZoneController).Bounded fired
          revoked := bounded.carry (.of_same rfl rfl rfl rfl rfl rfl (.inl rfl))
      exact toggled.decideAndApply _ (by simp) (applying_of_unlocked unlocked)
    · cases stepped
  | moisture observation =>
    simp only [ZoneController.step] at stepped
    have observed : ({ controller with observation := observation } : ZoneController).Bounded fired
        revoked := bounded.carry (.of_same rfl rfl rfl rfl rfl rfl (.inl rfl))
    split at stepped
    · rename_i unlocked
      split at stepped
      · obtain ⟨rfl, -⟩ := Prod.mk.inj (Option.some.inj stepped)
        exact observed.decideAndApply _ (by simp) (applying_of_unlocked unlocked)
      · obtain ⟨rfl, -⟩ := Prod.mk.inj (Option.some.inj stepped)
        exact observed
    · cases stepped
  -- An action of the application; its write succeeds by hypothesis.
  | act saved =>
    simp only [ZoneController.step] at stepped
    split at stepped
    · rename_i decision input rest applier locked
      have ahead : controller.ahead = rest := by simp [ZoneController.ahead, locked]
      have acted := @Bounded.act controller shared fired revoked saved decision input applier rest
        bounded locked fun action head => by
          rw [WriteSucceeds, ahead, Option.mem_def.mp head] at written
          exact of_decide_eq_true written
      rwa [show controller.act shared saved decision input applier rest = (next, shared') from
        Option.some.inj stepped] at acted
    · cases stepped
  | actuatorEvent | actuatorChange | provingOff =>
    simp only [ZoneController.step] at stepped
    exact bounded.actuatorStep stepped
  | slotRequest | slotResume | slotOffer | slotCancelled =>
    simp only [ZoneController.step] at stepped
    exact bounded.slotStep stepped
  | wake | gate | serviceReturned | reenter | anchor | recheck | offJoined =>
    simp only [ZoneController.step] at stepped
    exact bounded.sessionStep sound stepped
  | offServiceReturned | offProofEnded | offAborted | offDispatch =>
    simp only [ZoneController.step] at stepped
    obtain ⟨moved, moves, same⟩ := Option.map_eq_some_iff.mp stepped
    obtain ⟨rfl, -⟩ := Prod.mk.inj same
    exact bounded.offStep moves
  | ensureOff =>
    obtain ⟨rfl, -⟩ := Prod.mk.inj (Option.some.inj stepped)
    exact bounded.beginOffOperation _
  -- Quiescing revokes the timers.
  | quiesce =>
    obtain ⟨rfl, -⟩ := Prod.mk.inj (Option.some.inj stepped)
    refine ⟨fun pulse flows => ?_, bounded.decided⟩
    obtain ⟨-, planned, running, unsettled⟩ := bounded.watched pulse flows
    exact ⟨.inl (lost rfl), planned, running, unsettled⟩
  | updateOwnership zoneHistoryId lifecycle =>
    obtain ⟨rfl, -⟩ := Prod.mk.inj (Option.some.inj stepped)
    exact bounded.carry (.of_same rfl rfl rfl rfl rfl rfl (.inl rfl))

end ZoneController

end MoistureLoop
