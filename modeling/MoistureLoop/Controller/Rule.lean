import MoistureLoop.Controller.Moves
import MoistureLoop.StateMachine.Zone

/-! # The rule for one step of a controller

A property that the pieces of a step preserve is preserved by every step: this is where
the labels are taken apart, once.  What an application does with its next action is left
to the caller, and so is what a run assumes of the steps that start a pulse or dispatch
ON.  `ClosedCore` is the short form for properties of the decided session alone. -/

open MoistureLoop.Action

namespace MoistureLoop

def ControllerEvent.concernsOff : ControllerEvent → Bool
  | .offConfirmed _ | .offNotConfirmed | .externalActuatorOff _ => true
  | _ => false

/-- The events that neither concern OFF nor acknowledge a fault nor follow a request for the
flag. -/
def ControllerEvent.isRoutine (event : ControllerEvent) : Bool :=
  !event.concernsOff && decide (event ≠ .clearFaultRequested) && !event.isToggle

theorem ControllerEvent.isRoutine_iff {event : ControllerEvent} :
    event.isRoutine = true ↔
      (event.concernsOff = false ∧ event ≠ .clearFaultRequested) ∧ event.isToggle = false := by
  simp [isRoutine]

/-- The lock is held by `_perform_on`. -/
def LockHolder.commands : LockHolder → Bool
  | .persistingCommand | .rechecking _ => true
  | _ => false

namespace ZoneController

theorem quiesceIf_quiet (controller : ZoneController) (required : Bool) :
    Quiet controller (controller.quiesceIf required) := by
  unfold quiesceIf
  split <;> constructor <;> rfl

/-- An ON command that returns while the ON of a next pulse is still ahead has not failed
and is still authorized, so that it goes on without a compensation. -/
def NoLateReturn (controller : ZoneController) (shared : SharedState) (label : ControllerLabel) :
    Prop :=
  ∀ raised authority marker, label = .serviceReturned raised authority →
    controller.inflightOn = some marker → turnOn ∈ controller.ahead →
    raised = false ∧ ((controller.recordPossibleCommand marker).evaluateOnAuthority shared
      marker.sessionId false authority).authorized = true

/-- The ON command dispatched for `session`, after the gate has read the actuator. -/
def dispatchOn (controller : ZoneController) (now : Instant) (session : SessionContext)
    (reading : ActuatorAssessment) : ZoneController :=
  { controller with
    assessment := reading
    inflightOn := some { sessionId := session.sessionId, dispatchedAtUtc := now }
    dispatches := (session.pulse, now) :: controller.dispatches
    sessionTask := some .commanding }

/-- The property is preserved by the pieces that steps are built from.  `allowed` is what is
known of the shared state, `starting` of a controller whose decision starts a pulse,
`dispatching` of one that dispatches ON, and `clearing` of one whose fault is to be
acknowledged. -/
structure Closed (property : ZoneController → Prop) (allowed : SharedState → Prop)
    (starting dispatching : ZoneController → Prop)
    (clearing : ZoneController → SharedState → Prop) : Prop where
  /-- What is known of a start does not depend on the rest of the controller. -/
  stable : ∀ {controller next : ZoneController}, starting controller →
    next.session = controller.session → next.offRequested = controller.offRequested →
    next.offOperations = controller.offOperations → starting next
  quiet : ∀ {controller next : ZoneController}, property controller → Quiet controller next →
    property next
  released : ∀ {controller : ZoneController}, property controller → controller.ahead = [] →
    property { controller with locked := none }
  took : ∀ {controller : ZoneController} {holder : LockHolder}, property controller →
    controller.locked = none → holder.commands = true →
    property { controller with locked := some holder }
  observed : ∀ {controller : ZoneController} {shared : SharedState}
    (assessment : ActuatorAssessment) (terminalOn ownContext : Bool), property controller →
    allowed shared →
    property (controller.onActuatorEvent shared.now assessment terminalOn ownContext)
  taken : ∀ {controller : ZoneController} {change : ActuatorChange} {rest : List ActuatorChange},
    property controller → controller.actuatorChanges = change :: rest →
    property { controller with actuatorChanges := rest }
  proving : ∀ {controller : ZoneController} {change : ActuatorChange} {rest : List ActuatorChange}
    (active : Bool), property controller → controller.actuatorChanges = change :: rest →
    controller.locked = none → change.assessment.provenOff = true →
    property { controller with
      actuatorChanges := rest
      locked := some (.provingOff change active) }
  proven : ∀ {controller : ZoneController} {shared : SharedState} {change : ActuatorChange}
    {active : Bool} (sessionId : String), property controller →
    controller.locked = some (.provingOff change active) → allowed shared →
    property ({ controller with locked := none }.decideAndApply shared
      (.externalActuatorOff change.observedAt) .event sessionId)
  offReturned : ∀ {controller : ZoneController} {shared : SharedState} {operation left : Nat}
    (reading : ActuatorAssessment), property controller → allowed shared →
    controller.offOperations[operation]?.map OffOperation.phase = some (.commanding left) →
    property (controller.offServiceReturned shared.now operation left reading)
  offEnded : ∀ {controller : ZoneController} {shared : SharedState} {operation left : Nat},
    property controller → allowed shared →
    controller.offOperations[operation]?.map OffOperation.phase = some (.awaitingProof left) →
    property (controller.offProofEnded shared.now operation left)
  offAborted : ∀ {controller : ZoneController} {operation : Nat} {phase : OffPhase},
    property controller →
    controller.offOperations[operation]?.map OffOperation.phase = some phase →
    (∀ result, phase ≠ .done result) →
    property (controller.setOffPhase operation .recovering)
  offSettled : ∀ {controller : ZoneController} {shared : SharedState} {operation : Nat}
    {confirmedAt : Option Instant} (sessionId : String), property controller →
    controller.locked = none → allowed shared →
    controller.offOperations[operation]?.map OffOperation.phase = some (.settling confirmedAt) →
    property ((controller.setOffPhase operation (.dispatching confirmedAt)).decideAndApply shared
      (match confirmedAt with
        | some confirmedAt => .offConfirmed confirmedAt
        | none => .offNotConfirmed)
      (.offOperation operation) sessionId)
  offRecovered : ∀ {controller : ZoneController} {shared : SharedState} {operation : Nat}
    (sessionId : String), property controller → controller.locked = none → allowed shared →
    controller.offOperations[operation]?.map OffOperation.phase = some .recovering →
    property (controller.decideAndApply shared .offNotConfirmed (.offOperation operation) sessionId)
  decided : ∀ {controller : ZoneController} {shared : SharedState} {event : ControllerEvent}
    {applier : Applier} (sessionId : String), property controller → controller.locked = none →
    allowed shared → event.concernsOff = false →
    (event.isToggle = true → event = toggleEvent controller.enabled) →
    (event = .clearFaultRequested → clearing controller shared) →
    (∀ operation, applier ≠ .offOperation operation) →
    (turnOn ∈ (controller.decideAndApply shared event applier sessionId).ahead →
      starting controller) →
    property (controller.decideAndApply shared event applier sessionId)
  dispatched : ∀ {controller : ZoneController} {shared : SharedState} {session : SessionContext}
    (authority : OnAuthority), property controller → controller.locked = none → allowed shared →
    controller.session = some session → dispatching controller →
    (controller.evaluateOnAuthority shared session.sessionId true authority).authorized = true →
    property (controller.dispatchOn shared.now session authority.reading)
  compensated : ∀ {controller : ZoneController} (shared : SharedState)
    (configurationChanged serviceFailed : Bool), property controller →
    turnOn ∉ controller.ahead →
    property (controller.compensate shared configurationChanged serviceFailed)
  ensured : ∀ {controller : ZoneController}, property controller →
    controller.offRequested = true →
    property (controller.ensureOffOperation controller.offRequestedFor false)
  begun : ∀ {controller : ZoneController}, property controller →
    property (controller.beginOffOperation (controller.session.map SessionContext.pulse))
  recorded : ∀ {controller : ZoneController} (marker : InFlightOn), property controller →
    property (controller.recordPossibleCommand marker)
  failed : ∀ {controller : ZoneController}, property controller → controller.locked = none →
    property controller.handlePersistFailure

/-- A routine event may be decided whatever is known of acknowledgements. -/
theorem Closed.routine {property : ZoneController → Prop} {allowed : SharedState → Prop}
    {starting dispatching : ZoneController → Prop} {clearing : ZoneController → SharedState → Prop}
    (closed : Closed property allowed starting dispatching clearing) {controller : ZoneController}
    {shared : SharedState} {event : ControllerEvent} {applier : Applier} (sessionId : String)
    (holds : property controller) (unlocked : controller.locked = none)
    (permitted : allowed shared) (routine : event.isRoutine = true)
    (own : ∀ operation, applier ≠ .offOperation operation)
    (starts : turnOn ∈ (controller.decideAndApply shared event applier sessionId).ahead →
      starting controller) :
    property (controller.decideAndApply shared event applier sessionId) := by
  obtain ⟨⟨noOff, noClear⟩, noToggle⟩ := ControllerEvent.isRoutine_iff.mp routine
  exact closed.decided sessionId holds unlocked permitted noOff (by simp [noToggle])
    (fun clears => absurd clears noClear) own starts

/-- A compensation always keeps the property, also while the ON of a next pulse is ahead. -/
def Compensates (property : ZoneController → Prop) : Prop :=
  ∀ {controller : ZoneController} (shared : SharedState)
    (configurationChanged serviceFailed : Bool), property controller →
    property (controller.compensate shared configurationChanged serviceFailed)

theorem recheckOn_cases (controller : ZoneController) (shared : SharedState)
    (marker : InFlightOn) (authority : OnAuthority) (serviceFailed : Bool)
    (continued : ZoneController → ZoneController) :
    controller.recheckOn shared marker authority serviceFailed continued = continued controller ∨
    ∃ required changed, controller.recheckOn shared marker authority serviceFailed continued =
      (controller.quiesceIf required).compensate shared changed serviceFailed := by
  simp only [recheckOn]
  split
  · exact .inr ⟨_, _, rfl⟩
  · exact .inl rfl

theorem finalGateRefusalEvent_isRoutine (controller : ZoneController) (now : Instant)
    (authorization : OnAuthorization) :
    (controller.finalGateRefusalEvent now authorization).isRoutine = true := by
  unfold finalGateRefusalEvent
  split
  · rfl
  · split
    · split <;> rfl
    · split
      · split
        · split
          · rfl
          · split
            · split <;> rfl
            · rfl
        · rfl
      · rfl

theorem handleChange_decided {controller : ZoneController} {change : ActuatorChange}
    {event : ControllerEvent} (handled : controller.handleChange change = .decided event) :
    event.isRoutine = true := by
  unfold handleChange at handled
  split at handled
  · split at handled
    · obtain rfl := ChangeHandling.decided.inj handled
      rfl
    · cases handled
  · split at handled
    · split at handled
      · cases handled
      · split at handled
        · split at handled
          · obtain rfl := ChangeHandling.decided.inj handled
            rfl
          · cases handled
        · obtain rfl := ChangeHandling.decided.inj handled
          rfl
    · split at handled <;> cases handled

theorem handleChange_provesOff {controller : ZoneController} {change : ActuatorChange}
    (handled : controller.handleChange change = .provesOff) :
    change.assessment.provenOff = true := by
  unfold handleChange at handled
  split at handled
  · split at handled <;> cases handled
  · split at handled
    · split at handled
      · cases handled
      · split at handled
        · split at handled <;> cases handled
        · cases handled
    · split at handled
      · rename_i proven
        exact proven
      · cases handled

theorem handleProvenOff_decided {controller : ZoneController} {change : ActuatorChange}
    {active : Bool} {event : ControllerEvent}
    (handled : controller.handleProvenOff change active = .decided event) :
    event = .externalActuatorOff change.observedAt := by
  unfold handleProvenOff at handled
  split at handled
  · cases handled
  · exact (ChangeHandling.decided.inj handled).symm

/-! ## The steps of the tasks -/

variable {property : ZoneController → Prop} {allowed : SharedState → Prop}
  {starting dispatching : ZoneController → Prop}
  {clearing : ZoneController → SharedState → Prop}
  {controller next : ZoneController} {shared shared' : SharedState} {label : ControllerLabel}
  {sessionId : String}

theorem Compensates.recheckOn (compensates : Compensates property)
    (closed : Closed property allowed starting dispatching clearing) {marker : InFlightOn}
    {authority : OnAuthority} {serviceFailed : Bool} {continued : ZoneController → ZoneController}
    (holds : property controller) (goesOn : property (continued controller)) :
    property (controller.recheckOn shared marker authority serviceFailed continued) := by
  rcases controller.recheckOn_cases shared marker authority serviceFailed continued with
    same | ⟨required, changed, same⟩
  · rw [same]
    exact goesOn
  · rw [same]
    exact compensates _ _ _ (closed.quiet holds (controller.quiesceIf_quiet required))

theorem Closed.recheckOn (closed : Closed property allowed starting dispatching clearing)
    {marker : InFlightOn} {authority : OnAuthority} {serviceFailed : Bool}
    {continued : ZoneController → ZoneController}
    (holds : property controller) (notStarting : turnOn ∉ controller.ahead)
    (goesOn : property (continued controller)) :
    property (controller.recheckOn shared marker authority serviceFailed continued) := by
  rcases controller.recheckOn_cases shared marker authority serviceFailed continued with
    same | ⟨required, changed, same⟩
  · rw [same]
    exact goesOn
  · rw [same]
    have quiet := controller.quiesceIf_quiet required
    exact closed.compensated _ _ _ (closed.quiet holds quiet)
      (ahead_congr quiet.locked ▸ notStarting)

theorem Closed.offStep (closed : Closed property allowed starting dispatching clearing)
    (permitted : allowed shared) (holds : property controller)
    (stepped : controller.offStep shared label sessionId = some next) : property next := by
  cases label with
  | offServiceReturned operation reading =>
    simp only [ZoneController.offStep] at stepped
    split at stepped
    · rename_i commanding
      obtain rfl := Option.some.inj stepped
      exact closed.offReturned reading holds permitted commanding
    · cases stepped
  | offProofEnded operation =>
    simp only [ZoneController.offStep] at stepped
    split at stepped
    · rename_i awaiting
      obtain rfl := Option.some.inj stepped
      exact closed.offEnded holds permitted awaiting
    · cases stepped
  | offAborted operation =>
    simp only [ZoneController.offStep] at stepped
    split at stepped
    · rename_i commanding
      obtain rfl := Option.some.inj stepped
      exact closed.offAborted holds commanding (by simp)
    · rename_i awaiting
      obtain rfl := Option.some.inj stepped
      exact closed.offAborted holds awaiting (by simp)
    · cases stepped
  | offDispatch operation =>
    simp only [ZoneController.offStep] at stepped
    split at stepped
    · rename_i unlocked
      split at stepped
      · rename_i settling
        obtain rfl := Option.some.inj stepped
        exact closed.offSettled sessionId holds unlocked permitted settling
      · rename_i recovering
        obtain rfl := Option.some.inj stepped
        exact closed.offRecovered sessionId holds unlocked permitted recovering
      · cases stepped
    · cases stepped
  | _ => cases stepped

theorem Closed.slotStep (closed : Closed property allowed starting dispatching clearing)
    (permitted : allowed shared') (holds : property controller)
    (starts : turnOn ∈ next.ahead → turnOn ∉ controller.ahead → starting controller)
    (stepped : controller.slotStep shared label sessionId = some (next, shared')) :
    property next := by
  unfold ZoneController.slotStep at stepped
  split at stepped
  · obtain ⟨rfl, -⟩ := Prod.mk.inj (Option.some.inj stepped)
    exact closed.quiet holds (by constructor <;> rfl)
  · split at stepped
    · split at stepped
      · obtain ⟨rfl, -⟩ := Prod.mk.inj (Option.some.inj stepped)
        exact closed.quiet holds (by constructor <;> rfl)
      · obtain ⟨rfl, -⟩ := Prod.mk.inj (Option.some.inj stepped)
        exact closed.quiet holds (by constructor <;> rfl)
    · cases stepped
  · rename_i pendingManual _
    split at stepped
    · rename_i unlocked
      obtain ⟨rfl, rfl⟩ := Prod.mk.inj (Option.some.inj stepped)
      exact closed.routine sessionId holds unlocked permitted (by cases pendingManual <;> rfl)
        (by simp) fun starting => starts starting (by simp [ahead_of_unlocked unlocked])
    · cases stepped
  · obtain ⟨rfl, -⟩ := Prod.mk.inj (Option.some.inj stepped)
    exact closed.quiet holds (by constructor <;> rfl)
  · cases stepped

theorem Closed.actuatorStep (closed : Closed property allowed starting dispatching clearing)
    (permitted : allowed shared') (holds : property controller)
    (starts : turnOn ∈ next.ahead → turnOn ∉ controller.ahead → starting controller)
    (stepped : controller.actuatorStep shared label sessionId = some (next, shared')) :
    property next := by
  unfold ZoneController.actuatorStep at stepped
  split at stepped
  · obtain ⟨rfl, rfl⟩ := Prod.mk.inj (Option.some.inj stepped)
    exact closed.observed _ _ _ holds permitted
  · rename_i unlocked
    split at stepped
    · cases stepped
    · rename_i change rest queued
      have taken := closed.taken holds queued
      simp only at stepped
      split at stepped
      · obtain ⟨rfl, -⟩ := Prod.mk.inj (Option.some.inj stepped)
        exact taken
      · rename_i handled
        obtain ⟨rfl, rfl⟩ := Prod.mk.inj (Option.some.inj stepped)
        refine closed.routine sessionId taken unlocked permitted (handleChange_decided handled)
          (by simp) fun starting => closed.stable (starts starting ?_) rfl rfl rfl
        simp [ahead_of_unlocked unlocked]
      · rename_i handled
        obtain ⟨rfl, -⟩ := Prod.mk.inj (Option.some.inj stepped)
        exact closed.proving _ holds queued unlocked (handleChange_provesOff handled)
  · rename_i change active held
    have released := closed.released holds (by simp [ahead, held])
    simp only at stepped
    split at stepped
    · obtain ⟨rfl, -⟩ := Prod.mk.inj (Option.some.inj stepped)
      exact released
    · split at stepped
      · rename_i handled
        obtain rfl := handleProvenOff_decided handled
        obtain ⟨rfl, rfl⟩ := Prod.mk.inj (Option.some.inj stepped)
        exact closed.proven sessionId holds held permitted
      · obtain ⟨rfl, -⟩ := Prod.mk.inj (Option.some.inj stepped)
        exact released
  · cases stepped

/-- The gate leaves the matter, dispatches ON, or decides its refusal. -/
theorem gate_cases (controller : ZoneController) (shared : SharedState) (authority : OnAuthority)
    (sessionId : String) :
    Quiet controller (controller.gate shared authority sessionId) ∨
    (∃ session, controller.session = some session ∧
      (controller.evaluateOnAuthority shared session.sessionId true authority).authorized = true ∧
      controller.gate shared authority sessionId =
        controller.dispatchOn shared.now session authority.reading) ∨
    ∃ refusing event, Quiet controller refusing ∧ event.isRoutine = true ∧
      controller.gate shared authority sessionId =
        refusing.decideAndApply shared event .refusal sessionId := by
  unfold gate
  split
  · exact .inl (by constructor <;> rfl)
  · rename_i session held
    split
    · exact .inl (by constructor <;> rfl)
    · simp only
      split
      · exact .inr (.inr ⟨_, _, by constructor <;> rfl, rfl, rfl⟩)
      · split
        · rename_i authorized
          exact .inr (.inl ⟨session, held, authorized, rfl⟩)
        · have refreshed : Quiet controller
              { controller with sessionTask := some .refusing, assessment := authority.reading } := by
            constructor <;> rfl
          exact .inr (.inr ⟨_, _, refreshed.trans (quiesceIf_quiet _ _),
            finalGateRefusalEvent_isRoutine _ _ _, rfl⟩)

theorem Closed.gate (closed : Closed property allowed starting dispatching clearing)
    (permitted : allowed shared) (holds : property controller) (unlocked : controller.locked = none)
    (authority : OnAuthority)
    (starts : turnOn ∈ (controller.gate shared authority sessionId).ahead → starting controller)
    (dispatches : ∀ session, controller.session = some session →
      (controller.evaluateOnAuthority shared session.sessionId true authority).authorized = true →
      dispatching controller) :
    property (controller.gate shared authority sessionId) := by
  rcases controller.gate_cases shared authority sessionId with
    quiet | ⟨session, held, authorized, same⟩ | ⟨refusing, event, quiet, routine, same⟩
  · exact closed.quiet holds quiet
  · rw [same]
    exact closed.dispatched authority holds unlocked permitted held
      (dispatches session held authorized) authorized
  · rw [same] at starts ⊢
    exact closed.routine sessionId (closed.quiet holds quiet) (quiet.locked.trans unlocked)
      permitted routine (by simp)
      fun starting => closed.stable (starts starting) quiet.session quiet.offRequested
        quiet.offOperations

theorem Closed.anchor (closed : Closed property allowed starting dispatching clearing)
    (holds : property controller) (locked : controller.locked = some .persistingCommand)
    (saved : Bool) : property (controller.anchor shared saved).1 := by
  have rolled := controller.rollDaily_quiet shared.calendar shared.now
  have nothing : (controller.rollDaily shared.calendar shared.now).ahead = [] := by
    simp [ahead, rolled.locked, locked]
  have released : property
      { controller.rollDaily shared.calendar shared.now with locked := none } :=
    closed.released (closed.quiet holds rolled) nothing
  simp only [ZoneController.anchor]
  split
  · have rechecking : property
        { { controller.rollDaily shared.calendar shared.now with locked := none } with
          locked := some (.rechecking false) } := closed.took released rfl rfl
    exact rechecking
  · have failed := handlePersistFailure_spec
      { controller.rollDaily shared.calendar shared.now with locked := none }
    refine closed.compensated _ _ _ (closed.failed released rfl) ?_
    rw [ahead_of_unlocked failed.2.2.2.2.2.1]
    exact List.not_mem_nil
  · exact closed.quiet released (by constructor <;> rfl)

theorem Closed.sessionStep (closed : Closed property allowed starting dispatching clearing)
    (permitted : allowed shared') (holds : property controller)
    (returns : controller.NoLateReturn shared label ∨ Compensates property)
    (starts : turnOn ∈ next.ahead → turnOn ∉ controller.ahead → starting controller)
    (dispatches : ∀ authority session, label = .gate authority →
      controller.session = some session →
      (controller.evaluateOnAuthority shared session.sessionId true authority).authorized = true →
      dispatching controller)
    (stepped : controller.sessionStep shared label sessionId = some (next, shared')) :
    property next := by
  unfold ZoneController.sessionStep at stepped
  split at stepped
  · -- The task wakes: it passes to the gate, waits for OFF, or ends.
    obtain ⟨woken, step, same⟩ := Option.map_eq_some_iff.mp stepped
    obtain ⟨rfl, -⟩ := Prod.mk.inj same
    unfold ZoneController.wake at step
    split at step
    · obtain rfl := Option.some.inj step
      exact closed.quiet holds (by constructor <;> rfl)
    · split at step
      · rename_i requested
        obtain rfl := Option.some.inj step
        exact closed.ensured holds requested
      · split at step
        · obtain rfl := Option.some.inj step
          exact closed.quiet holds (by constructor <;> rfl)
        · cases step
  · -- The final gate.
    rename_i authority _ unlocked
    obtain ⟨rfl, rfl⟩ := Prod.mk.inj (Option.some.inj stepped)
    refine closed.gate permitted holds unlocked authority (fun starting => starts starting ?_)
      fun session => dispatches authority session rfl
    simp [ahead_of_unlocked unlocked]
  · -- The ON service returned: the command is noted and checked again.
    rename_i raised authority marker _ inflight
    obtain ⟨rfl, -⟩ := Prod.mk.inj (Option.some.inj stepped)
    have recorded := closed.recorded marker holds
    have goesOn : property { controller.recordPossibleCommand marker with
        sessionTask := some .reentering } :=
      closed.quiet recorded (by constructor <;> rfl)
    by_cases starting : turnOn ∈ controller.ahead
    · rcases returns with returns | compensates
      · obtain ⟨returned, authorized⟩ := returns raised authority marker rfl inflight starting
        simpa [ZoneController.recheckOn, returned, authorized] using goesOn
      · exact compensates.recheckOn closed recorded goesOn
    · exact closed.recheckOn recorded starting goesOn
  · -- The lock is taken again for the anchor.
    rename_i authority marker _ unlocked _
    obtain ⟨rfl, -⟩ := Prod.mk.inj (Option.some.inj stepped)
    refine closed.recheckOn holds (by simp [ahead_of_unlocked unlocked]) ?_
    exact closed.quiet (closed.took holds unlocked
      (show LockHolder.commands .persistingCommand = true from rfl)) (by constructor <;> rfl)
  · -- The anchor is written.
    rename_i saved _ locked
    have anchored : property (controller.anchor shared saved).1 :=
      closed.anchor holds locked saved
    rw [show controller.anchor shared saved = (next, shared') from Option.some.inj stepped]
      at anchored
    exact anchored
  · -- The last recheck, behind the anchor.
    rename_i authority confirmed marker _ locked _
    obtain ⟨rfl, rfl⟩ := Prod.mk.inj (Option.some.inj stepped)
    have released : property { controller with locked := none } :=
      closed.released holds (by simp [ahead, locked])
    rcases recheckOn_cases { controller with locked := none } shared marker authority false
      (fun continued => continued.afterRecheck shared marker confirmed sessionId) with
      same | ⟨required, changed, same⟩
    · rw [same] at starts ⊢
      unfold afterRecheck at starts ⊢
      split
      · rename_i observed
        simp only [observed] at starts
        refine closed.routine sessionId released rfl permitted rfl (by simp)
          fun starting => closed.stable (starts starting ?_) rfl rfl rfl
        simp [ahead, locked]
      · exact closed.quiet released (by constructor <;> rfl)
    · rw [same]
      have quiet := quiesceIf_quiet { controller with locked := none } required
      exact closed.compensated _ _ _ (closed.quiet released quiet)
        (by simp [ahead_congr quiet.locked])
  · -- The OFF operation is joined.
    split at stepped
    · obtain ⟨rfl, -⟩ := Prod.mk.inj (Option.some.inj stepped)
      exact closed.quiet holds (by constructor <;> rfl)
    · cases stepped
  · cases stepped

/-! ## Any step -/

theorem ControllerEvent.concernsOff_of_isInput {event : ControllerEvent}
    (input : event.isInput = true) : event.concernsOff = false := by
  cases event <;> first | rfl | cases input

theorem ControllerEvent.isToggle_of_isInput {event : ControllerEvent}
    (input : event.isInput = true) : event.isToggle = false := by
  cases event <;> first | rfl | cases input

/-- One step preserves a closed property, when the next action of an application does, no
ON command is lost in the start of a next pulse, and the steps that start a pulse or
dispatch ON are as assumed. -/
theorem Closed.step (closed : Closed property allowed starting dispatching clearing)
    (permitted : allowed shared') (holds : property controller)
    (acted : ∀ saved decision input rest applier, label = .act saved →
      controller.locked = some (.applying decision input rest applier) →
      property (controller.act shared saved decision input applier rest).1)
    (returns : controller.NoLateReturn shared label ∨ Compensates property)
    (starts : turnOn ∈ next.ahead → turnOn ∉ controller.ahead → starting controller)
    (dispatches : ∀ authority session, label = .gate authority →
      controller.session = some session →
      (controller.evaluateOnAuthority shared session.sessionId true authority).authorized = true →
      dispatching controller)
    (clears : label = .dispatch .clearFaultRequested → clearing controller shared')
    (toggles : ∀ enabled, label = .setEnabled enabled →
      property { controller with enabled := enabled })
    (stepped : controller.step shared label sessionId = some (next, shared')) :
    property next := by
  cases label with
  | dispatch event =>
    simp only [ZoneController.step] at stepped
    split at stepped
    · rename_i permits
      obtain ⟨unlocked, input⟩ := permits
      obtain ⟨rfl, rfl⟩ := Prod.mk.inj (Option.some.inj stepped)
      refine closed.decided sessionId holds unlocked permitted
        (ControllerEvent.concernsOff_of_isInput input)
        (by simp [ControllerEvent.isToggle_of_isInput input]) (fun same => clears (same ▸ rfl)) (by simp)
        fun starting => starts starting ?_
      simp [ahead_of_unlocked unlocked]
    · cases stepped
  | moisture observation =>
    simp only [ZoneController.step] at stepped
    -- The observation is kept whatever is decided.
    have observed : property { controller with observation := observation } :=
      closed.quiet holds (by constructor <;> rfl)
    split at stepped
    · rename_i unlocked
      split at stepped
      · obtain ⟨rfl, rfl⟩ := Prod.mk.inj (Option.some.inj stepped)
        refine closed.routine sessionId observed unlocked permitted rfl (by simp)
          fun starting => closed.stable (starts starting ?_) rfl rfl rfl
        simp [ahead_of_unlocked unlocked]
      · obtain ⟨rfl, -⟩ := Prod.mk.inj (Option.some.inj stepped)
        exact observed
    · cases stepped
  | setEnabled enabled =>
    simp only [ZoneController.step] at stepped
    split at stepped
    · rename_i unlocked
      obtain ⟨rfl, rfl⟩ := Prod.mk.inj (Option.some.inj stepped)
      refine closed.decided sessionId (toggles enabled rfl) unlocked permitted
        (by cases enabled <;> rfl) (fun _ => rfl) (by cases enabled <;> simp) (by simp)
        fun starting => closed.stable (starts starting ?_) rfl rfl rfl
      simp [ahead_of_unlocked unlocked]
    · cases stepped
  | act saved =>
    simp only [ZoneController.step] at stepped
    split at stepped
    · rename_i decision input rest applier locked
      have acted := acted saved decision input rest applier rfl locked
      rw [Option.some.inj stepped] at acted
      exact acted
    · cases stepped
  -- The other coroutines have rules of their own.
  | actuatorEvent | actuatorChange | provingOff =>
    simp only [ZoneController.step] at stepped
    exact closed.actuatorStep permitted holds starts stepped
  | slotRequest | slotResume | slotOffer | slotCancelled =>
    simp only [ZoneController.step] at stepped
    exact closed.slotStep permitted holds starts stepped
  | wake | gate | serviceReturned | reenter | anchor | recheck | offJoined =>
    simp only [ZoneController.step] at stepped
    exact closed.sessionStep permitted holds returns starts dispatches stepped
  -- Only the dispatch of the OFF operation decides anything.
  | offServiceReturned | offProofEnded | offAborted | offDispatch =>
    simp only [ZoneController.step] at stepped
    obtain ⟨moved, step, same⟩ := Option.map_eq_some_iff.mp stepped
    obtain ⟨rfl, rfl⟩ := Prod.mk.inj same
    exact closed.offStep permitted holds step
  | ensureOff =>
    obtain ⟨rfl, -⟩ := Prod.mk.inj (Option.some.inj stepped)
    exact closed.begun holds
  | quiesce =>
    obtain ⟨rfl, -⟩ := Prod.mk.inj (Option.some.inj stepped)
    exact closed.quiet holds (by constructor <;> rfl)
  | updateOwnership zoneHistoryId lifecycle =>
    obtain ⟨rfl, -⟩ := Prod.mk.inj (Option.some.inj stepped)
    exact closed.quiet holds (by constructor <;> rfl)

/-! ## Properties of the decided session -/

/-- The pieces for a property that depends on the core of the controller and on the actions
ahead: any event may be decided, and the phases of the OFF operations do not matter. -/
structure ClosedCore (property : ZoneController → Prop) (allowed : SharedState → Prop) : Prop where
  sameCore : ∀ {controller next : ZoneController}, property controller →
    SameCore controller next → next.ahead = controller.ahead → property next
  decided : ∀ {controller : ZoneController} {shared : SharedState} (event : ControllerEvent)
    (applier : Applier) (sessionId : String), property controller → controller.locked = none →
    allowed shared → property (controller.decideAndApply shared event applier sessionId)
  compensated : ∀ {controller : ZoneController} (shared : SharedState)
    (configurationChanged serviceFailed : Bool), property controller →
    turnOn ∉ controller.ahead →
    property (controller.compensate shared configurationChanged serviceFailed)
  ensured : ∀ {controller : ZoneController} (requestedFor : Option PulseId)
    (compensating : Bool), property controller →
    property (controller.ensureOffOperation requestedFor compensating)
  begun : ∀ {controller : ZoneController} (requestedFor : Option PulseId), property controller →
    property (controller.beginOffOperation requestedFor)
  recorded : ∀ {controller : ZoneController} (marker : InFlightOn), property controller →
    property (controller.recordPossibleCommand marker)
  failed : ∀ {controller : ZoneController}, property controller → controller.locked = none →
    property controller.handlePersistFailure

theorem ClosedCore.closed (core : ClosedCore property allowed) :
    Closed property allowed (fun _ => True) (fun _ => True) fun _ _ => True where
  stable _ _ _ _ := trivial
  quiet holds quiet := core.sameCore holds quiet.sameCore (ahead_congr quiet.locked)
  released holds nothing := core.sameCore holds (by constructor <;> rfl) nothing.symm
  took {controller holder} holds unlocked commands := by
    refine core.sameCore holds (by constructor <;> rfl) ?_
    rw [ahead_of_unlocked unlocked]
    cases holder <;> first | rfl | cases commands
  observed _ _ _ holds _ := core.sameCore holds (by constructor <;> rfl) rfl
  taken holds _ := core.sameCore holds (by constructor <;> rfl) rfl
  proving _ holds _ unlocked _ :=
    core.sameCore holds (by constructor <;> rfl) (ahead_of_unlocked unlocked).symm
  proven {controller _ _ _} sessionId holds locked permitted :=
    core.decided _ _ sessionId (core.sameCore holds (by constructor <;> rfl)
      (show [] = controller.ahead by simp [ahead, locked])) rfl permitted
  offReturned _ holds _ _ := core.sameCore holds (offServiceReturned_sameCore _ _ _ _ _)
    (ahead_congr (by unfold offServiceReturned; simp only; split <;> rfl))
  offEnded holds _ _ := core.sameCore holds (offProofEnded_sameCore _ _ _ _)
    (ahead_congr (by unfold offProofEnded; split <;> rfl))
  offAborted holds _ _ := core.sameCore holds (setOffPhase_sameCore _ _ _) rfl
  offSettled sessionId holds unlocked permitted _ :=
    core.decided _ _ sessionId (core.sameCore holds (setOffPhase_sameCore _ _ _) rfl) unlocked
      permitted
  offRecovered sessionId holds unlocked permitted _ :=
    core.decided _ _ sessionId holds unlocked permitted
  decided sessionId holds unlocked permitted _ _ _ _ _ :=
    core.decided _ _ sessionId holds unlocked permitted
  dispatched _ holds _ _ _ _ _ := core.sameCore holds (by constructor <;> rfl) rfl
  compensated := core.compensated
  ensured holds _ := core.ensured _ _ holds
  begun holds := core.begun _ holds
  recorded := core.recorded
  failed := core.failed

theorem ClosedCore.step (core : ClosedCore property allowed) (permitted : allowed shared')
    (holds : property controller)
    (acted : ∀ saved decision input rest applier, label = .act saved →
      controller.locked = some (.applying decision input rest applier) →
      property (controller.act shared saved decision input applier rest).1)
    (returns : controller.NoLateReturn shared label ∨ Compensates property)
    (stepped : controller.step shared label sessionId = some (next, shared')) :
    property next :=
  core.closed.step permitted holds acted returns (fun _ _ => trivial) (fun _ _ _ _ _ => trivial)
    (fun _ => trivial) (fun _ _ => core.sameCore holds (by constructor <;> rfl) rfl) stepped

end ZoneController

end MoistureLoop
