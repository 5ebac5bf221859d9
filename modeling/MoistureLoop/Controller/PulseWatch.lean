import MoistureLoop.Controller.Authority
import MoistureLoop.StateMachine.PulseStop

/-! # What watches a flowing pulse

A flowing pulse has OFF requested, an OFF operation running, or the timer that ends it: still
armed, or fired with its event waiting for the transition lock.  The invariant of a controller
says where the timer is while a decision is being applied, and that the OFF operation it
refers to has not finished.  Deciding on an event and executing the actions of a decision keep
it. -/

open MoistureLoop.Action

namespace MoistureLoop

namespace ZoneController

abbrev Flows (controller : ZoneController) (pulse : SessionContext) : Prop :=
  Flowing controller.state controller.session pulse

/-- An application of a decision holds the lock. -/
def applying (controller : ZoneController) : Bool :=
  match controller.locked with
  | some (.applying _ _ _ _) => true
  | _ => false

theorem applying_of_unlocked {controller : ZoneController} (unlocked : controller.locked = none) :
    controller.applying = false := by
  simp [applying, unlocked]

theorem ahead_of_not_applying {controller : ZoneController}
    (resting : controller.applying = false) : controller.ahead = [] := by
  cases locked : controller.locked with
  | none => exact ahead_of_unlocked locked
  | some holder =>
    cases holder with
    | applying => simp [applying, locked] at resting
    | _ => simp [ahead, locked]

/-- `Watched controller fired revoked pulse`: what stops the flowing pulse.  Unless quiescing
has `revoked` the timers, OFF is under way or the stop timer is armed, has `fired`, or is yet
to be armed by the application in progress. -/
structure Watched (controller : ZoneController) (fired : List (TimerKind × Instant))
    (revoked : Bool) (pulse : SessionContext) : Prop where
  covered : revoked = true ∨ controller.offRequested = true ∨
    controller.currentOffOperation.isSome = true ∧ turnOn ∉ controller.ahead ∨
    (∃ defensive, executeOff defensive ∈ controller.ahead) ∨
    ∃ timer, pulse.stop controller.config = some timer ∧
      (timer ∈ controller.timers ∨ timer ∈ fired ∨ armTimer timer.1 timer.2 ∈ controller.ahead)
  /-- What the application still does to the pulse: nothing, or it arms the stop timer, after
  it has requested ON. -/
  planned : controller.ahead.filter movesPulse = [] ∨ ∃ timer,
    pulse.stop controller.config = some timer ∧
      (controller.ahead.filter movesPulse = [armTimer timer.1 timer.2] ∨
        controller.ahead.filter movesPulse = [turnOn, armTimer timer.1 timer.2])
  /-- The OFF operation of the pulse has not settled. -/
  running : turnOn ∉ controller.ahead → ∀ operation,
    controller.currentOffOperation = some operation → operation.isDone = false
  /-- No outcome of an OFF operation leaves a pulse flowing. -/
  unsettled : ∀ decision input rest operation,
    controller.locked ≠ some (.applying decision input rest (.offOperation operation))

/-- Every flowing pulse is watched, and the decision being applied is that of its input. -/
structure Bounded (controller : ZoneController) (fired : List (TimerKind × Instant))
    (revoked : Bool) : Prop where
  watched : ∀ pulse, controller.Flows pulse → controller.Watched fired revoked pulse
  decided : ∀ decision input rest applier,
    controller.locked = some (.applying decision input rest applier) →
    StateMachine.decide input = .ok decision

/-- `next` has no flowing pulse of its own, and what watches a pulse is untouched. -/
structure Carries (controller next : ZoneController) : Prop where
  locked : next.locked = controller.locked ∨ controller.applying = false ∧ next.applying = false
  carried : ∀ pulse, next.Flows pulse → ∃ before, controller.Flows before ∧
    pulse.stop next.config = before.stop controller.config ∧ next.timers = controller.timers ∧
    next.offRequested = controller.offRequested ∧
    next.currentOffOperation = controller.currentOffOperation

variable {controller next : ZoneController} {shared shared' : SharedState}
  {fired : List (TimerKind × Instant)} {revoked : Bool} {pulse : SessionContext}
  {label : ControllerLabel} {sessionId : String}

/-- Nothing but fields that watch no pulse differs. -/
theorem Carries.of_same (state : next.state = controller.state)
    (session : next.session = controller.session) (config : next.config = controller.config)
    (timers : next.timers = controller.timers)
    (offRequested : next.offRequested = controller.offRequested)
    (operation : next.currentOffOperation = controller.currentOffOperation)
    (locked : next.locked = controller.locked ∨
      controller.applying = false ∧ next.applying = false) : Carries controller next := by
  refine ⟨locked, fun pulse flows => ⟨pulse, ?_, by rw [config], timers, offRequested, operation⟩⟩
  rwa [Flows, state, session] at flows

theorem Carries.refl (controller : ZoneController) : Carries controller controller :=
  .of_same rfl rfl rfl rfl rfl rfl (.inl rfl)

theorem Carries.trans {middle : ZoneController} (first : Carries controller middle)
    (second : Carries middle next) : Carries controller next := by
  refine ⟨?_, fun pulse flows => ?_⟩
  · rcases second.locked with same | ⟨resting, resting'⟩
    · rcases first.locked with same' | ⟨resting, resting'⟩
      · exact .inl (same.trans same')
      · exact .inr ⟨resting, by rwa [applying, same]⟩
    · rcases first.locked with same' | ⟨resting'', -⟩
      · exact .inr ⟨by rwa [applying, ← same'], resting'⟩
      · exact .inr ⟨resting'', resting'⟩
  obtain ⟨between, flows', stop', timers', requested', operation'⟩ := second.carried pulse flows
  obtain ⟨before, flows, stop, timers, requested, operation⟩ := first.carried between flows'
  exact ⟨before, flows, stop'.trans stop, timers'.trans timers, requested'.trans requested,
    operation'.trans operation⟩

theorem Carries.of_stopped
    (locked : next.locked = controller.locked ∨ controller.applying = false ∧ next.applying = false)
    (stopped : ∀ pulse, ¬ next.Flows pulse) : Carries controller next :=
  ⟨locked, fun pulse flows => absurd flows (stopped pulse)⟩

theorem Bounded.carry (bounded : controller.Bounded fired revoked)
    (carries : Carries controller next) : next.Bounded fired revoked := by
  have held : ∀ decision input rest applier,
      next.locked = some (.applying decision input rest applier) →
      controller.locked = some (.applying decision input rest applier) := by
    intro decision input rest applier held
    rcases carries.locked with same | ⟨-, resting⟩
    · exact same ▸ held
    · simp [applying, held] at resting
  have ahead : next.ahead = controller.ahead := by
    rcases carries.locked with same | ⟨resting, resting'⟩
    · exact ahead_congr same
    · rw [ahead_of_not_applying resting, ahead_of_not_applying resting']
  refine ⟨fun pulse flows => ?_, fun decision input rest applier now =>
    bounded.decided decision input rest applier (held _ _ _ _ now)⟩
  obtain ⟨before, flows, stop, timers, requested, operation⟩ := carries.carried pulse flows
  obtain ⟨covered, planned, running, unsettled⟩ := bounded.watched before flows
  refine ⟨?_, ?_, ?_, fun decision input rest settling now =>
    unsettled decision input rest settling (held _ _ _ _ now)⟩
  · rwa [requested, operation, ahead, stop, timers]
  · rwa [ahead, stop]
  · rwa [ahead, operation]

/-- A controller without a flowing pulse is bounded, whatever was revoked. -/
theorem Bounded.of_stopped (stopped : ∀ pulse, ¬ controller.Flows pulse)
    (decided : ∀ decision input rest applier,
      controller.locked = some (.applying decision input rest applier) →
      StateMachine.decide input = .ok decision) : controller.Bounded fired revoked :=
  ⟨fun pulse flows => absurd flows (stopped pulse), decided⟩

/-! ## Between applications -/

/-- What stops the flowing pulse of a controller that applies no decision. -/
structure Guarded (controller : ZoneController) (fired : List (TimerKind × Instant))
    (revoked : Bool) (pulse : SessionContext) : Prop where
  running : ∀ operation, controller.currentOffOperation = some operation → operation.isDone = false
  covered : revoked = true ∨ controller.offRequested = true ∨
    controller.currentOffOperation.isSome = true ∨
    ∃ timer, pulse.stop controller.config = some timer ∧
      (timer ∈ controller.timers ∨ timer ∈ fired)

theorem Watched.guarded (watched : controller.Watched fired revoked pulse)
    (none' : controller.ahead = []) : controller.Guarded fired revoked pulse := by
  obtain ⟨covered, -, running, -⟩ := watched
  rw [none'] at covered running
  refine ⟨running (by simp), ?_⟩
  simpa using covered

theorem Guarded.watched (guarded : controller.Guarded fired revoked pulse)
    (resting : controller.applying = false) : controller.Watched fired revoked pulse := by
  have none' := ahead_of_not_applying resting
  refine ⟨?_, .inl (by rw [none']; rfl), fun _ => guarded.running, ?_⟩
  · rw [none']
    simpa using guarded.covered
  · intro decision input rest operation held
    simp [applying, held] at resting

theorem Bounded.of_guarded (resting : controller.applying = false)
    (guarded : ∀ pulse, controller.Flows pulse → controller.Guarded fired revoked pulse) :
    controller.Bounded fired revoked := by
  refine ⟨fun pulse flows => (guarded pulse flows).watched resting, ?_⟩
  intro decision input rest applier held
  simp [applying, held] at resting

theorem Bounded.guarded (bounded : controller.Bounded fired revoked)
    (resting : controller.applying = false) (flows : controller.Flows pulse) :
    controller.Guarded fired revoked pulse :=
  (bounded.watched pulse flows).guarded (ahead_of_not_applying resting)

/-! ## The pieces of a step -/

theorem rollDaily_carries (calendar : LocalCalendar) (now : Instant) :
    Carries controller (controller.rollDaily calendar now) := by
  unfold rollDaily
  split
  · exact .refl _
  · exact .of_same rfl rfl rfl rfl rfl rfl (.inl rfl)

theorem afterApply_spec (applier : Applier) (raised : Bool)
    (other : ∀ operation, applier ≠ .offOperation operation) :
    let after := controller.afterApply applier raised
    after.applying = false ∧ after.state = controller.state ∧
      after.session = controller.session ∧ after.config = controller.config ∧
      after.timers = controller.timers ∧ after.offRequested = controller.offRequested ∧
      after.currentOffOperation = controller.currentOffOperation := by
  cases applier with
  | event | slot | refusal => exact ⟨rfl, rfl, rfl, rfl, rfl, rfl, rfl⟩
  | offOperation operation => exact absurd rfl (other operation)
  | confirmation => cases raised <;> exact ⟨rfl, rfl, rfl, rfl, rfl, rfl, rfl⟩

theorem afterApply_bounded {applier : Applier} (raised : Bool)
    (other : ∀ operation, applier ≠ .offOperation operation)
    (guarded : ∀ pulse, controller.Flows pulse → controller.Guarded fired revoked pulse) :
    (controller.afterApply applier raised).Bounded fired revoked := by
  obtain ⟨resting, state, session, config, timers, requested, operation⟩ :=
    @afterApply_spec controller applier raised other
  refine .of_guarded resting fun pulse flows => ?_
  obtain ⟨running, covered⟩ := guarded pulse (by rwa [Flows, state, session] at flows)
  refine ⟨?_, ?_⟩
  · rwa [operation]
  · rwa [requested, operation, config, timers]

/-- The end of an application keeps the decided state, whoever asked for it. -/
theorem afterApply_flows (applier : Applier) (raised : Bool)
    (flows : (controller.afterApply applier raised).Flows pulse) : controller.Flows pulse := by
  have same := (controller.afterApply_sameCore applier raised).1
  rwa [Flows, same.state, same.session] at flows

theorem afterApply_applying (applier : Applier) (raised : Bool) :
    (controller.afterApply applier raised).applying = false := by
  cases applier with
  | event | slot | refusal => rfl
  | offOperation operation =>
    simp only [afterApply]
    split
    · rfl
    · split <;> rfl
  | confirmation => cases raised <;> rfl

/-! ## Adopting a decision -/

theorem chargeGrowth_timers (decision : Decision) (input : TransitionInput) :
    (controller.chargeGrowth shared decision input).timers = controller.timers := by
  have rolled : ∀ (base : ZoneController) (calendar : LocalCalendar) (now : Instant),
      (base.rollDaily calendar now).timers = base.timers := by
    intro base calendar now
    unfold rollDaily
    split <;> rfl
  simp only [chargeGrowth, chargeRuntime]
  split
  · rfl
  · split
    · split <;> exact rolled _ _ _
    · rfl

theorem mem_cancelTimers {kinds : List TimerKind} {timer : TimerKind × Instant}
    (armed : timer ∈ controller.timers) (other : timer.1 ∉ kinds) :
    timer ∈ (controller.cancelTimers kinds).timers :=
  List.mem_filter.mpr ⟨armed, by simpa using other⟩

theorem housekeepTimers_mem {previous : ControllerState} {timer : TimerKind × Instant}
    (flows : controller.Flows pulse) (stop : pulse.stop controller.config = some timer)
    (armed : timer ∈ controller.timers) : timer ∈ (controller.housekeepTimers previous).timers := by
  have watches := SessionContext.stop_watchesPulse stop
  have soaked : timer ∈ (if previous = .soaking ∧ controller.state ≠ .soaking then
      controller.cancelTimers [.soakEnd, .grace] else controller).timers := by
    split
    · refine mem_cancelTimers armed fun member => ?_
      simp only [List.mem_cons, List.not_mem_nil, or_false] at member
      rcases member with kind | kind <;> simp [kind, TimerKind.watchesPulse] at watches
    · exact armed
  simp only [housekeepTimers, flows.watering, ne_eq, not_true, and_false, if_false] at soaked ⊢
  by_cases confirmed : pulse.pulseConfirmedAtUtc.isSome = true
  · have own : controller.session.any (fun session =>
        session.pulseConfirmedAtUtc.isSome) = true := by
      simp [flows.held, confirmed]
    rw [if_pos own]
    refine mem_cancelTimers ?_ (by simpa using SessionContext.stop_of_confirmed stop confirmed)
    exact soaked
  · have own : controller.session.any (fun session =>
        session.pulseConfirmedAtUtc.isSome) = false := by
      simp [flows.held, confirmed]
    rw [if_neg (by simp [own])]
    exact soaked

theorem recordPendingManual_timers (decision : Decision) (input : TransitionInput) :
    (controller.recordPendingManual decision input).timers = controller.timers := by
  unfold recordPendingManual
  split
  · split <;> rfl
  · rfl

/-- Up to its housekeeping the prelude touches no timer. -/
theorem applyPrelude_housekeeps (decision : Decision) (input : TransitionInput) :
    ∃ summed : ZoneController, summed.timers = controller.timers ∧
      controller.applyPrelude shared decision input =
        (summed.housekeepTimers controller.state).recordPendingManual decision input := by
  refine ⟨_, ?_, rfl⟩
  have finalized : ∀ (base : ZoneController) (reason : Option CompletionReason)
      (closed : SessionContext) (now : Instant),
      (base.finalizeSummary reason closed now).timers = base.timers := by
    intro base reason closed now
    unfold finalizeSummary
    split <;> rfl
  have adopted : ∀ base : ZoneController, (base.adopt decision).timers = base.timers :=
    fun _ => rfl
  split
  · rw [chargeGrowth_timers, adopted]
    split
    · split
      · split <;> rfl
      · rfl
    · rfl
  · rw [finalized, chargeGrowth_timers, adopted]
    split
    · split
      · split <;> rfl
      · rfl
    · rfl

/-- What a decision leaves of a pulse that goes on. -/
theorem applyPrelude_spec (decision : Decision) (input : TransitionInput) :
    let next := controller.applyPrelude shared decision input
    Frame controller next ∧ next.state = decision.newState.getD controller.state ∧
      next.session = decision.leaves controller.session ∧
      ∀ pulse timer, next.Flows pulse → pulse.stop next.config = some timer →
        timer ∈ controller.timers → timer ∈ next.timers := by
  refine ⟨controller.applyPrelude_frame shared decision input, applyPrelude_state _ _ _ _,
    applyPrelude_session _ _ _ _, fun pulse timer flows stop armed => ?_⟩
  obtain ⟨summed, timers, same⟩ := @applyPrelude_housekeeps controller shared decision input
  rw [same] at flows stop ⊢
  have kept := (summed.housekeepTimers_sameDecided controller.state).trans
    (recordPendingManual_sameDecided _ decision input)
  rw [recordPendingManual_timers]
  refine housekeepTimers_mem ?_ (kept.config ▸ stop) (timers ▸ armed)
  rwa [Flows, kept.state, kept.session] at flows

/-! ## Deciding -/

/-- What a decision makes of the flowing pulses of its controller. -/
theorem decideAndApply_decided (event : ControllerEvent) (applier : Applier) :
    let rolled := controller.rollDaily shared.calendar shared.now
    let input := rolled.buildInput shared event sessionId
    let next := controller.decideAndApply shared event applier sessionId
    ((∀ decision, StateMachine.decide input = .ok decision → decision.noOp = true) ∧
      ∃ raised, next = rolled.afterApply applier raised) ∨
    ∃ decision, StateMachine.decide input = .ok decision ∧ decision.noOp = false ∧
      next = { rolled.applyPrelude shared decision input with
        locked := some (.applying decision input decision.actions applier) } := by
  simp only [decideAndApply]
  split
  · rename_i err failed
    exact .inl ⟨fun decision decided => by simp [failed] at decided, true, rfl⟩
  · rename_i decision decided
    split
    · rename_i ignored
      refine .inl ⟨fun other decided' => ?_, false, rfl⟩
      obtain rfl := Except.ok.inj (decided.symm.trans decided')
      exact ignored
    · rename_i acts
      exact .inr ⟨decision, decided, by simpa using acts, rfl⟩

theorem rollDaily_flows : (controller.rollDaily shared.calendar shared.now).Flows pulse ↔
    controller.Flows pulse := by
  have rolled := controller.rollDaily_sameDecided shared.calendar shared.now
  rw [Flows, rolled.state, rolled.session]

/-- An event that settles a pulse leaves none flowing, whoever dispatches it. -/
theorem decideAndApply_settles {event : ControllerEvent} (applier : Applier)
    (settles : event.settlesPulse = true) (pulse : SessionContext) :
    ¬ (controller.decideAndApply shared event applier sessionId).Flows pulse := by
  intro flows
  have silent : StateMachine.mayStart event = false := by
    cases event <;> simp_all [ControllerEvent.settlesPulse, StateMachine.mayStart]
  rcases @decideAndApply_decided controller shared sessionId event applier with
    ⟨ignored, raised, same⟩ | ⟨decision, decided, -, same⟩
  · rw [same] at flows
    have flowed := afterApply_flows applier raised flows
    obtain ⟨decision, decided, acts, -⟩ := @StateMachine.decide_settles
      ((controller.rollDaily shared.calendar shared.now).buildInput shared event sessionId)
      pulse flowed settles
    simp [ignored decision decided] at acts
  · rw [same] at flows
    obtain ⟨-, state, session, -⟩ := @applyPrelude_spec
      (controller.rollDaily shared.calendar shared.now) shared decision
      ((controller.rollDaily shared.calendar shared.now).buildInput shared event sessionId)
    have left : Flowing (decision.newState.getD
        (controller.rollDaily shared.calendar shared.now).state)
        (decision.leaves (controller.rollDaily shared.calendar shared.now).session) pulse := by
      rw [← state, ← session]
      exact flows
    have contradiction : ∀ before,
        (controller.rollDaily shared.calendar shared.now).Flows before → False := by
      intro before flowed
      obtain ⟨other, decided', -, none'⟩ := @StateMachine.decide_settles
        ((controller.rollDaily shared.calendar shared.now).buildInput shared event sessionId)
        before flowed settles
      obtain rfl := Except.ok.inj (decided.symm.trans decided')
      exact none' pulse left
    cases StateMachine.decide_flowStep decided left with
    | starts may => exact Bool.false_ne_true (silent.symm.trans may)
    | confirms flowed | keeps flowed => exact contradiction _ flowed

/-- After such an event the controller is bounded, whatever watched its pulse before. -/
theorem decideAndApply_settled {event : ControllerEvent} (applier : Applier)
    (settles : event.settlesPulse = true) :
    (controller.decideAndApply shared event applier sessionId).Bounded fired revoked := by
  refine .of_stopped (decideAndApply_settles applier settles) fun decision input rest applier' => ?_
  rcases @decideAndApply_decided controller shared sessionId event applier with
    ⟨-, raised, same⟩ | ⟨other, decided, -, same⟩
  · rw [same]
    intro held
    have resting := @afterApply_applying (controller.rollDaily shared.calendar shared.now)
      applier raised
    simp [applying, held] at resting
  · rw [same]
    intro held
    simp only [Option.some.injEq, LockHolder.applying.injEq] at held
    obtain ⟨rfl, rfl, -, -⟩ := held
    exact decided

/-- What stops a flowing pulse when its event is decided on: what guards it, or the event of
its own stop timer, just delivered. -/
def GuardedAt (controller : ZoneController) (fired : List (TimerKind × Instant)) (revoked : Bool)
    (event : ControllerEvent) (pulse : SessionContext) : Prop :=
  controller.Guarded fired revoked pulse ∨
    (∀ operation, controller.currentOffOperation = some operation → operation.isDone = false) ∧
      ∃ timer, pulse.stop controller.config = some timer ∧ event = timer.1.event

theorem GuardedAt.running {event : ControllerEvent}
    (guarded : controller.GuardedAt fired revoked event pulse) (operation : OffOperation)
    (current : controller.currentOffOperation = some operation) : operation.isDone = false :=
  guarded.elim (fun held => held.running operation current) fun held => held.1 operation current

theorem decideAndApply_bounded {event : ControllerEvent} {applier : Applier}
    (other : ∀ operation, applier ≠ .offOperation operation)
    (guarded : ∀ pulse, controller.Flows pulse → controller.GuardedAt fired revoked event pulse) :
    (controller.decideAndApply shared event applier sessionId).Bounded fired revoked := by
  have frame := controller.rollDaily_sameDecided shared.calendar shared.now
  have timers : (controller.rollDaily shared.calendar shared.now).timers = controller.timers := by
    unfold rollDaily
    split <;> rfl
  -- Rolling the day over moves no timer.
  have flowing : ∀ pulse, (controller.rollDaily shared.calendar shared.now).Flows pulse →
      (controller.rollDaily shared.calendar shared.now).GuardedAt fired revoked event pulse := by
    intro pulse flows
    have operation : (controller.rollDaily shared.calendar shared.now).currentOffOperation =
        controller.currentOffOperation := by
      simp only [currentOffOperation, frame.offOperation, frame.offOperations]
    rcases guarded pulse (rollDaily_flows.mp flows) with ⟨running, covered⟩ | ⟨running, timer⟩
    · refine .inl ⟨?_, ?_⟩
      · rwa [operation]
      · rwa [frame.offRequested, operation, frame.config, timers]
    · refine .inr ⟨?_, ?_⟩
      · rwa [operation]
      · rwa [frame.config]
  rcases @decideAndApply_decided controller shared sessionId event applier with
    ⟨ignored, raised, same⟩ | ⟨decision, decided, acts, same⟩
  · -- Nothing was adopted: the event was no stop timer of a flowing pulse.
    rw [same]
    refine afterApply_bounded raised other fun pulse flows => ?_
    refine (flowing pulse flows).resolve_right ?_
    rintro ⟨-, timer, stop, own⟩
    obtain ⟨decision, decided, acts, -⟩ := @StateMachine.decide_stopTimer
      ((controller.rollDaily shared.calendar shared.now).buildInput shared event sessionId)
      pulse timer flows stop own
    simp [ignored decision decided] at acts
  · rw [same]
    -- Something was: each way a pulse flows afterwards has its stop.
    generalize controller.rollDaily shared.calendar shared.now = rolled at decided flowing ⊢
    obtain ⟨prelude, state, session, armed⟩ := @applyPrelude_spec rolled shared decision
      (rolled.buildInput shared event sessionId)
    refine ⟨fun pulse flows => ?_, ?_⟩
    · have left : Flowing (decision.newState.getD rolled.state)
          (decision.leaves rolled.session) pulse := by
        rw [← state, ← session]
        exact flows
      have operation : (rolled.applyPrelude shared decision
          (rolled.buildInput shared event sessionId)).currentOffOperation =
          rolled.currentOffOperation := by
        simp only [currentOffOperation, prelude.offOperation, prelude.offOperations]
      have unsettled : ∀ decision' input' rest operation,
          some (LockHolder.applying decision (rolled.buildInput shared event sessionId)
            decision.actions applier) ≠
          some (.applying decision' input' rest (.offOperation operation)) := by
        intro decision' input' rest operation same
        simp only [Option.some.injEq, LockHolder.applying.injEq] at same
        exact other operation same.2.2.2
      cases StateMachine.decide_flowStep decided left with
      -- The ON timeout is armed by the actions ahead.
      | @starts timer _ stop moves =>
        have arms := List.mem_of_mem_filter
          (show armTimer timer.1 timer.2 ∈ decision.actions.filter movesPulse by simp [moves])
        have asks := List.mem_of_mem_filter
          (show turnOn ∈ decision.actions.filter movesPulse by simp [moves])
        rw [show (rolled.buildInput shared event sessionId).config = _ from prelude.config.symm]
          at stop
        exact ⟨.inr (.inr (.inr (.inr ⟨timer, stop, .inr (.inr arms)⟩))),
          .inr ⟨timer, stop, .inr moves⟩, fun silent => absurd asks silent, unsettled⟩
      -- The confirmation replaces it by the end of the pulse.
      | @confirms before timer _ flowed _ stop moves =>
        have arms := List.mem_of_mem_filter
          (show armTimer timer.1 timer.2 ∈ decision.actions.filter movesPulse by simp [moves])
        rw [show (rolled.buildInput shared event sessionId).config = _ from prelude.config.symm]
          at stop
        refine ⟨.inr (.inr (.inr (.inr ⟨timer, stop, .inr (.inr arms)⟩))),
          .inr ⟨timer, stop, .inl moves⟩, fun _ current held => ?_, unsettled⟩
        exact (flowing before flowed).running current (operation.symm.trans held)
      -- The timer stays, or it was the event and requests OFF.
      | @keeps before flowed stop none' =>
        have silent : turnOn ∉ decision.actions := fun asks =>
          List.filter_eq_nil_iff.mp none' turnOn asks rfl
        rw [show (rolled.buildInput shared event sessionId).config = _ from prelude.config.symm]
          at stop
        refine ⟨?_, .inl none', fun _ current held => ?_, unsettled⟩
        · rcases flowing before flowed with ⟨-, covered⟩ | ⟨-, timer, own, delivered⟩
          · rcases covered with lost | requested | running | ⟨timer, own, kept⟩
            · exact .inl lost
            · exact .inr (.inl (prelude.offRequested.trans requested))
            · exact .inr (.inr (.inl ⟨(congrArg Option.isSome operation).trans running, silent⟩))
            · refine .inr (.inr (.inr (.inr ⟨timer, ?_, ?_⟩)))
              · rw [← prelude.config] at own
                exact stop.trans own
              · rw [← prelude.config] at own
                exact kept.imp (armed pulse timer flows (stop.trans own)) .inl
          · obtain ⟨other', decided', -, defensive, off⟩ := @StateMachine.decide_stopTimer
              (rolled.buildInput shared event sessionId) before timer flowed own delivered
            obtain rfl := Except.ok.inj (decided.symm.trans decided')
            exact .inr (.inr (.inr (.inl ⟨defensive, off⟩)))
        · exact (flowing before flowed).running current (operation.symm.trans held)
    · intro decision' input' rest applier' held
      simp only [Option.some.injEq, LockHolder.applying.injEq] at held
      obtain ⟨rfl, rfl, -, -⟩ := held
      exact decided

theorem Bounded.decideAndApply (bounded : controller.Bounded fired revoked)
    (event : ControllerEvent) {applier : Applier}
    (other : ∀ operation, applier ≠ .offOperation operation)
    (resting : controller.applying = false) :
    (controller.decideAndApply shared event applier sessionId).Bounded fired revoked :=
  decideAndApply_bounded other fun _ flows => .inl (bounded.guarded resting flows)

/-! ## Acting -/

inductive ActionEffect (controller next : ZoneController) : Action → Prop where
  | asks : next.currentOffOperation = none → next.timers = controller.timers →
      next.offRequested = controller.offRequested → ActionEffect controller next turnOn
  | stops (defensive : Bool) : next.offRequested = true → next.timers = controller.timers →
      next.currentOffOperation = controller.currentOffOperation →
      ActionEffect controller next (executeOff defensive)
  | arms (kind : TimerKind) (atUtc : Instant) : (kind, atUtc) ∈ next.timers →
      (∀ timer ∈ controller.timers, timer.1 ≠ kind → timer ∈ next.timers) →
      next.offRequested = controller.offRequested →
      next.currentOffOperation = controller.currentOffOperation →
      ActionEffect controller next (armTimer kind atUtc)
  | quiet {action : Action} : action.movesPulse = false → StateMachine.isExecuteOff action = false →
      (∀ timer ∈ controller.timers, timer ∈ next.timers) →
      next.offRequested = controller.offRequested →
      next.currentOffOperation = controller.currentOffOperation →
      ActionEffect controller next action

theorem applyAction_effect (action : Action) (saved : Bool) :
    let next := (controller.applyAction shared action saved).1.1
    next.state = controller.state ∧ next.session = controller.session ∧
      next.config = controller.config ∧ ActionEffect controller next action := by
  cases action with
  | turnOn => exact ⟨rfl, rfl, rfl, .asks rfl rfl rfl⟩
  | executeOff defensive => exact ⟨rfl, rfl, rfl, .stops defensive rfl rfl rfl⟩
  | armTimer kind atUtc =>
    refine ⟨rfl, rfl, rfl, .arms kind atUtc List.mem_cons_self ?_ rfl rfl⟩
    exact fun timer armed other =>
      List.mem_cons_of_mem _ (mem_cancelTimers armed (by simpa using other))
  | persistState tag =>
    have rolled : ∀ (calendar : LocalCalendar) (now : Instant),
        (controller.rollDaily calendar now).state = controller.state ∧
        (controller.rollDaily calendar now).session = controller.session ∧
        (controller.rollDaily calendar now).config = controller.config ∧
        ActionEffect controller (controller.rollDaily calendar now) (persistState tag) := by
      intro calendar now
      unfold rollDaily
      split
      · exact ⟨rfl, rfl, rfl, .quiet rfl rfl (fun _ armed => armed) rfl rfl⟩
      · exact ⟨rfl, rfl, rfl, .quiet rfl rfl (fun _ armed => armed) rfl rfl⟩
    simp only [applyAction]
    split
    · exact rolled _ _
    · exact rolled _ _
  | requestSlot =>
    simp only [applyAction, ensureSlotRequest]
    split
    · exact ⟨rfl, rfl, rfl, .quiet rfl rfl (fun _ armed => armed) rfl rfl⟩
    · exact ⟨rfl, rfl, rfl, .quiet rfl rfl (fun _ armed => armed) rfl rfl⟩
  | _ => exact ⟨rfl, rfl, rfl, .quiet rfl rfl (fun _ armed => armed) rfl rfl⟩

/-- One action of an application, once it has succeeded. -/
theorem Watched.acted {action : Action} {rest : List Action} {decision : Decision}
    {input : TransitionInput} {applier : Applier} (watched : controller.Watched fired revoked pulse)
    (locked : controller.locked = some (.applying decision input (action :: rest) applier))
    (config : next.config = controller.config) (effect : ActionEffect controller next action)
    (held : next.locked = some (.applying decision input rest applier)) :
    next.Watched fired revoked pulse := by
  have before : controller.ahead = action :: rest := by simp [ahead, locked]
  have after : next.ahead = rest := by simp [ahead, held]
  obtain ⟨covered, planned, running, unsettled⟩ := watched
  rw [before] at covered planned running
  have unsettled' : ∀ decision' input' rest' operation,
      next.locked ≠ some (.applying decision' input' rest' (.offOperation operation)) := by
    intro decision' input' rest' operation same
    rw [held] at same
    simp only [Option.some.injEq, LockHolder.applying.injEq] at same
    exact unsettled decision input (action :: rest) operation (by rw [locked, same.2.2.2])
  -- An action that neither moves the pulse nor stops it.
  have steady : action.movesPulse = false → StateMachine.isExecuteOff action = false →
      (∀ timer ∈ controller.timers, timer.1.watchesPulse = true → timer ∈ next.timers) →
      next.offRequested = controller.offRequested →
      next.currentOffOperation = controller.currentOffOperation →
      next.Watched fired revoked pulse := by
    intro still notOff kept requested operation
    have notOn : turnOn ∈ action :: rest → turnOn ∈ rest := by
      intro member
      rcases List.mem_cons.mp member with rfl | later
      · cases still
      · exact later
    rw [List.filter_cons_of_neg (by simp [still])] at planned
    refine ⟨?_, ?_, fun silent => ?_, unsettled'⟩
    · rw [after, requested, operation, config]
      rcases covered with
        lost | asked | ⟨current, silent⟩ | ⟨defensive, off⟩ | ⟨timer, stop, placed⟩
      · exact .inl lost
      · exact .inr (.inl asked)
      · exact .inr (.inr (.inl ⟨current, fun later => silent (List.mem_cons_of_mem _ later)⟩))
      · rcases List.mem_cons.mp off with rfl | later
        · cases notOff
        · exact .inr (.inr (.inr (.inl ⟨defensive, later⟩)))
      · have watches := SessionContext.stop_watchesPulse stop
        refine .inr (.inr (.inr (.inr ⟨timer, stop, ?_⟩)))
        rcases placed with armed | gone | ahead'
        · exact .inl (kept timer armed watches)
        · exact .inr (.inl gone)
        · rcases List.mem_cons.mp ahead' with rfl | later
          · exact absurd watches (by simpa [movesPulse] using still)
          · exact .inr (.inr later)
    · rwa [after, config]
    · rw [operation]
      exact running fun member => (after ▸ silent) (notOn member)
  cases effect with
  -- With ON requested, what is planned is its timer.
  | asks none' timers requested =>
    rw [List.filter_cons_of_pos rfl] at planned
    rcases planned with absent | ⟨timer, stop, single | pair⟩
    · cases absent
    · simp at single
    · have moves : rest.filter movesPulse = [armTimer timer.1 timer.2] := (List.cons.inj pair).2
      have arms : armTimer timer.1 timer.2 ∈ rest :=
        List.mem_of_mem_filter (show _ ∈ rest.filter movesPulse by simp [moves])
      refine ⟨?_, ?_, fun _ operation current => ?_, unsettled'⟩
      · exact .inr (.inr (.inr (.inr ⟨timer, config ▸ stop, .inr (.inr (after ▸ arms))⟩)))
      · exact .inr ⟨timer, config ▸ stop, .inl (after ▸ moves)⟩
      · rw [none'] at current
        cases current
  -- OFF is requested, which is the strongest of the covers.
  | stops defensive requested timers operation =>
    rw [List.filter_cons_of_neg (by simp [movesPulse])] at planned
    refine ⟨.inr (.inl requested), ?_, fun silent => ?_, unsettled'⟩
    · rwa [after, config]
    · rw [operation]
      refine running fun member => (after ▸ silent) ?_
      simpa using member
  | arms kind atUtc armed others requested operation =>
    by_cases watches : kind.watchesPulse = true
    · -- The planned timer is the one that is armed now.
      rw [List.filter_cons_of_pos (show (armTimer kind atUtc).movesPulse = true from watches)]
        at planned
      rcases planned with absent | ⟨timer, stop, single | pair⟩
      · cases absent
      · obtain ⟨same, none'⟩ := List.cons.inj single
        simp only [armTimer.injEq] at same
        obtain ⟨rfl, rfl⟩ := same
        refine ⟨.inr (.inr (.inr (.inr ⟨timer, config ▸ stop, .inl armed⟩))), .inl (after ▸ none'),
          fun silent => ?_, unsettled'⟩
        rw [operation]
        refine running fun member => (after ▸ silent) ?_
        simpa using member
      · simp at pair
    · refine steady (by simpa [movesPulse] using watches) rfl (fun timer held' watches' => ?_)
        requested operation
      refine others timer held' fun same => watches ?_
      rwa [same] at watches'
  | quiet still notOff others requested operation =>
    exact steady still notOff (fun timer held' _ => others timer held') requested operation

theorem noteRequest_spec (action : Action) (input : TransitionInput) :
    let noted := controller.noteRequest action input
    noted.state = controller.state ∧ noted.session = controller.session ∧
      noted.config = controller.config ∧ noted.timers = controller.timers ∧
      noted.offRequested = controller.offRequested ∧
      noted.currentOffOperation = controller.currentOffOperation := by
  cases action <;> exact ⟨rfl, rfl, rfl, rfl, rfl, rfl⟩

/-- An application whose next action raises nothing goes on watching its pulse. -/
theorem Bounded.act {saved : Bool} {decision : Decision} {input : TransitionInput}
    {applier : Applier} {rest : List Action} (bounded : controller.Bounded fired revoked)
    (locked : controller.locked = some (.applying decision input rest applier))
    (written : ∀ action ∈ rest.head?, (controller.applyAction shared action saved).2 = none) :
    (controller.act shared saved decision input applier rest).1.Bounded fired revoked := by
  cases rest with
  | nil =>
    by_cases settling : ∃ operation, applier = .offOperation operation
    · obtain ⟨operation, rfl⟩ := settling
      refine .of_guarded (afterApply_applying _ _) fun pulse flows => ?_
      have flowed := afterApply_flows _ _ flows
      have same := controller.applyFinish_sameCore
      rw [Flows, same.state, same.session] at flowed
      exact absurd locked ((bounded.watched pulse flowed).unsettled _ _ _ operation)
    · refine afterApply_bounded false (fun operation same => settling ⟨operation, same⟩) ?_
      intro pulse flows
      have finished : Carries controller controller.applyFinish := by
        unfold applyFinish
        split
        · exact .of_same rfl rfl rfl rfl rfl rfl (.inl rfl)
        · exact .refl _
      have none' : controller.applyFinish.ahead = [] := by
        unfold applyFinish
        split <;> simp [ahead, ensureSessionTask, locked]
      exact ((bounded.carry finished).watched pulse flows).guarded none'
  | cons action rest =>
    obtain ⟨state, session, config, effect⟩ :=
      @applyAction_effect controller shared action saved
    have raised := written action rfl
    simp only [ZoneController.act]
    generalize controller.applyAction shared action saved = result
      at raised state session config effect ⊢
    obtain ⟨⟨acted, shared'⟩, outcome⟩ := result
    obtain rfl : outcome = none := raised
    obtain ⟨state', session', config', timers', requested', operation'⟩ :=
      @noteRequest_spec acted action input
    refine ⟨fun pulse flows => ?_, fun decision' input' rest' applier' held => ?_⟩
    · refine (bounded.watched pulse ?_).acted locked (config'.trans config) ?_ rfl
      · have flows' : Flowing (acted.noteRequest action input).state
            (acted.noteRequest action input).session pulse := flows
        rwa [state', session', state, session] at flows'
      · cases effect with
        | asks none' timers requested =>
          exact .asks (operation'.trans none') (timers'.trans timers) (requested'.trans requested)
        | stops defensive requested timers operation =>
          exact .stops defensive (requested'.trans requested) (timers'.trans timers)
            (operation'.trans operation)
        | arms kind atUtc armed others requested operation =>
          exact .arms kind atUtc (timers'.symm ▸ armed)
            (fun timer held other => timers'.symm ▸ others timer held other)
            (requested'.trans requested) (operation'.trans operation)
        | quiet still notOff others requested operation =>
          exact .quiet still notOff (fun timer held => timers'.symm ▸ others timer held)
            (requested'.trans requested) (operation'.trans operation)
    · simp only [Option.some.injEq, LockHolder.applying.injEq] at held
      obtain ⟨rfl, rfl, -, -⟩ := held
      exact bounded.decided _ _ _ _ locked

end ZoneController

end MoistureLoop
