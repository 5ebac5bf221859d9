import MoistureLoop.Controller.Simulation
import MoistureLoop.StateMachine.Budgets

/-! # The guards of a start and the final gate

A start passes the guards of the state machine, and its ON passes the final gate.  The two
guard sets are written separately; what the gate asks beyond the guards of each kind of start
is named here. -/

open MoistureLoop.Action

namespace MoistureLoop

def ControllerEvent.requestsManual : ControllerEvent → Bool
  | .manualStartRequested _ => true
  | _ => false

namespace StateMachine

variable {inp : TransitionInput} {decision : Decision} {session : SessionContext}

theorem PulseStart.startsWith (start : PulseStart inp decision) :
    ∃ session actions, StartsWith decision session actions := by
  cases start with
  | first _ _ _ _ _ _ _ _ started | next _ _ _ _ _ _ _ _ _ _ started
  | manual _ _ _ _ _ _ started => exact ⟨_, _, started⟩

theorem evaluateAutoStart_auto (decided : evaluateAutoStart inp = .ok decision)
    (held : decision.session = some session) : session.mode = .auto := by
  unfold evaluateAutoStart at decided
  cases fresh : freshnessFailures inp with
  | error err => simp [fresh] at decided
  | ok freshness =>
    simp only [fresh] at decided
    split at decided
    · obtain rfl := Except.ok.inj decided
      cases held
    · split at decided
      · obtain ⟨reportedAt, identity, -, -, -, started⟩ := startAutoPulse_first decided
        obtain rfl := Option.some.inj (started.session.symm.trans held)
        rfl
      · obtain rfl := Except.ok.inj decided
        cases held

theorem manualStart_manual {requestedS : Option Seconds} {row : String}
    (decided : manualStart inp requestedS row = .ok decision)
    (held : decision.session = some session) : session.mode = .manual := by
  cases requestedS with
  | none =>
    obtain rfl := Except.ok.inj decided
    cases held
  | some requested =>
    obtain ⟨identity, -, -, started⟩ := manualStart_started decided (by simp [held])
    obtain rfl := Option.some.inj (started.session.symm.trans held)
    rfl

/-- A fault that clears by itself starts nothing. -/
theorem faultAutoClearCheck_session (inp : TransitionInput) :
    (faultAutoClearCheck inp).session = none := by
  unfold faultAutoClearCheck
  split
  · rfl
  · split
    · rfl
    · split <;> rfl

theorem auto_of_start (decided : decide inp = .ok decision)
    (held : decision.session = some session) (automatic : inp.event.requestsManual = false)
    (may : mayStart inp.event = true) (rests : inp.state = .idle ∨ inp.state = .fault) :
    session.mode = .auto := by
  rcases rests with idle | fault
  · cases event : inp.event <;> simp only [event, mayStart, Bool.false_eq_true] at may <;>
      simp only [decide, event, idle, decideIdle] at decided
    case autoEvaluate | moistureReport | slotGranted => exact evaluateAutoStart_auto decided held
    case manualStartRequested => simp [event, ControllerEvent.requestsManual] at automatic
    all_goals
      obtain rfl := Except.ok.inj decided
      cases held
  · cases event : inp.event <;> simp only [event, mayStart, Bool.false_eq_true] at may <;>
      simp only [decide, event, fault, decideFault] at decided
    case manualStartRequested => simp [event, ControllerEvent.requestsManual] at automatic
    case moistureReport =>
      obtain rfl := Except.ok.inj decided
      simp [faultAutoClearCheck_session] at held
    all_goals
      obtain rfl := Except.ok.inj decided
      cases held

theorem manual_of_start (decided : decide inp = .ok decision)
    (held : decision.session = some session) (manual : inp.event.requestsManual = true)
    (idle : inp.state = .idle) : session.mode = .manual := by
  cases event : inp.event with
  | manualStartRequested requestedS =>
    simp only [decide, event, idle, decideIdle] at decided
    exact manualStart_manual decided held
  | _ => simp [event, ControllerEvent.requestsManual] at manual

end StateMachine

namespace ZoneController

variable {controller next after : ZoneController} {shared shared' : SharedState}
  {event : ControllerEvent} {sessionId : String} {decision : Decision} {session : SessionContext}
  {now : Instant} {dailyRuntimeS : Seconds}

/-! ## What the gate reads -/

/-- What the final gate reads of the controller, the OFF operation apart. -/
structure SameGate (controller next : ZoneController) : Prop where
  state : next.state = controller.state
  session : next.session = controller.session
  enabled : next.enabled = controller.enabled
  runId : next.runId = controller.runId
  configFingerprint : next.configFingerprint = controller.configFingerprint
  config : next.config = controller.config
  activeFault : next.activeFault = controller.activeFault
  observation : next.observation = controller.observation
  lastSessionEnd : next.lastSessionEnd = controller.lastSessionEnd
  offRequested : next.offRequested = controller.offRequested
  inflightOn : next.inflightOn = controller.inflightOn

theorem SameGate.refl (controller : ZoneController) : SameGate controller controller := by
  constructor <;> rfl

theorem SameGate.trans {first second third : ZoneController} (left : SameGate first second)
    (right : SameGate second third) : SameGate first third := by
  cases left
  cases right
  constructor <;> simp_all only

theorem rollDaily_sameGate (controller : ZoneController) (calendar : LocalCalendar)
    (now : Instant) : SameGate controller (controller.rollDaily calendar now) := by
  unfold rollDaily
  split <;> constructor <;> rfl

/-- The actions of a start leave what the gate reads, and `TurnOn` forgets the OFF operation of
the pulse before. -/
theorem applyAction_sameGate {action : Action} (starts : StateMachine.isStartAction action = true)
    (applied : controller.applyAction shared action true = ((next, shared'), none)) :
    SameGate controller next ∧
      next.offOperation = if action = turnOn then none else controller.offOperation := by
  cases action with
  | persistState tag =>
    simp only [applyAction] at applied
    split at applied
    · cases applied
    · obtain ⟨same, -⟩ := Prod.mk.inj applied
      obtain ⟨rfl, -⟩ := Prod.mk.inj same
      exact ⟨controller.rollDaily_sameGate _ _, by
        simpa using (controller.rollDaily_sameDecided shared.calendar shared.now).offOperation⟩
  | armWatchdog | turnOn | armTimer | emitSessionStarted =>
    obtain ⟨same, -⟩ := Prod.mk.inj applied
    obtain ⟨rfl, -⟩ := Prod.mk.inj same
    exact ⟨by constructor <;> rfl, rfl⟩
  | _ => cases starts

/-- Executing a start leaves what the gate reads, without an OFF operation. -/
theorem applyActions_sameGate {actions : List Action}
    (starts : ∀ action ∈ actions, StateMachine.isStartAction action = true)
    (applied : controller.applyActions shared actions = .ok (after, shared')) :
    SameGate controller after ∧
      (turnOn ∈ actions ∨ controller.offOperation = none → after.offOperation = none) := by
  induction actions generalizing controller shared with
  | nil =>
    obtain ⟨rfl, -⟩ := Prod.mk.inj (Except.ok.inj applied)
    refine ⟨?_, ?_⟩
    · unfold applyFinish
      split <;> constructor <;> rfl
    · rintro (absurd' | forgotten)
      · cases absurd'
      · unfold applyFinish
        split <;> exact forgotten
  | cons action rest inductionHypothesis =>
    simp only [applyActions] at applied
    generalize acted : controller.applyAction shared action true = result at applied
    obtain ⟨⟨next, shared''⟩, raised⟩ := result
    cases raised with
    | some err => cases applied
    | none =>
      obtain ⟨same, operation⟩ := applyAction_sameGate (starts action (by simp)) acted
      obtain ⟨rest', forgets⟩ :=
        inductionHypothesis (fun other member => starts other (by simp [member])) applied
      refine ⟨same.trans rest', fun forgotten => forgets ?_⟩
      by_cases on : action = turnOn
      · exact .inr (by rw [operation, if_pos on])
      · rw [operation, if_neg on]
        rcases forgotten with member | forgotten
        · rcases List.mem_cons.mp member with same' | member
          · exact absurd same'.symm on
          · exact .inl member
        · exact .inr forgotten

/-! ## The end of the last session -/

theorem rollDaily_lastSessionEnd (controller : ZoneController) (calendar : LocalCalendar)
    (now : Instant) : (controller.rollDaily calendar now).lastSessionEnd =
      controller.lastSessionEnd :=
  (controller.rollDaily_sameGate calendar now).lastSessionEnd

theorem chargeGrowth_lastSessionEnd (controller : ZoneController) (shared : SharedState)
    (decision : Decision) (input : TransitionInput) :
    (controller.chargeGrowth shared decision input).lastSessionEnd = controller.lastSessionEnd := by
  simp only [chargeGrowth, chargeRuntime]
  split
  · rfl
  · split
    · split
      · exact rollDaily_lastSessionEnd _ _ _
      · exact rollDaily_lastSessionEnd _ _ _
    · rfl

theorem housekeepTimers_lastSessionEnd (controller : ZoneController) (previous : ControllerState) :
    (controller.housekeepTimers previous).lastSessionEnd = controller.lastSessionEnd := by
  simp only [housekeepTimers]
  split <;> split <;> split <;> rfl

theorem recordPendingManual_lastSessionEnd (controller : ZoneController) (decision : Decision)
    (input : TransitionInput) :
    (controller.recordPendingManual decision input).lastSessionEnd = controller.lastSessionEnd := by
  unfold recordPendingManual
  split
  · split <;> rfl
  · rfl

theorem applyPrelude_lastSessionEnd (controller : ZoneController) (shared : SharedState)
    (decision : Decision) (input : TransitionInput) (unclosed : decision.finalSession = none) :
    (controller.applyPrelude shared decision input).lastSessionEnd = controller.lastSessionEnd := by
  simp only [applyPrelude, recordPendingManual_lastSessionEnd, housekeepTimers_lastSessionEnd,
    unclosed, chargeGrowth_lastSessionEnd]
  split
  · split
    · split <;> rfl
    · rfl
  · rfl

/-! ## The gate of a start -/

/-- `_perform_on` hands an expired AUTO pulse to the watchdog instead of asking the gate. -/
def watchdogShortcut (controller : ZoneController) (now : Instant) : Bool :=
  controller.armedWatchdog.isSome && controller.session.any fun session =>
    decide (session.mode = .auto) &&
      session.sensorFreshUntilUtc.any fun freshUntil => decide (freshUntil ≤ now)

/-- The gate has nothing against the ON of the session, and the watchdog does not come first. -/
def GateAgrees (controller : ZoneController) (now : Instant) (dailyRuntimeS : Seconds) : Prop :=
  ∃ session, controller.session = some session ∧
    controller.finalOnGuardFailures now session.sessionId dailyRuntimeS true = [] ∧
    controller.watchdogShortcut now = false

/-- What the gate asks of any session: that of this run and configuration, uncommitted, with
no OFF requested and no ON in flight. -/
structure Commandable (controller : ZoneController) (session : SessionContext) : Prop where
  enabled : controller.enabled = true
  owned : session.ownerRunId = controller.runId
  configured : session.configFingerprint = controller.configFingerprint
  intended : session.pulseIntentAtUtc.isSome = true
  uncommitted : session.pendingTerminationReason = none
  unrequested : controller.offRequested = false
  uncommanded : controller.inflightOn = none
  unfaulted : controller.activeFault.all
    (fun fault => session.mode = .manual && fault.allowsManual) = true

def modeFailures (controller : ZoneController) (now : Instant) (session : SessionContext)
    (dailyRuntimeS : Seconds) : List String :=
  if session.mode = .auto then controller.autoOnFailures now session dailyRuntimeS
  else controller.manualOnFailures session dailyRuntimeS

/-- The session passes every guard of the gate but that of a running OFF operation. -/
def Passes (controller : ZoneController) (now : Instant) (session : SessionContext)
    (dailyRuntimeS : Seconds) : Prop :=
  Commandable controller session ∧ controller.modeFailures now session dailyRuntimeS = []

theorem finalOnGuardFailures_eq_nil_iff (watering : controller.state = .watering)
    (held : controller.session = some session) :
    controller.finalOnGuardFailures now session.sessionId dailyRuntimeS true = [] ↔
      controller.offOperationActive = false ∧ controller.Passes now session dailyRuntimeS := by
  simp only [Passes, modeFailures, finalOnGuardFailures, watering, held, if_true, List.nil_append, ne_eq,
    not_true_eq_false, if_false, List.append_eq_nil_iff, ite_eq_left_iff, ite_eq_right_iff,
    List.cons_ne_nil, imp_false, not_not, true_and, Bool.not_eq_true, Bool.not_eq_false]
  constructor
  · rintro ⟨⟨⟨⟨⟨⟨⟨⟨⟨enabled, owned⟩, configured⟩, intended⟩, uncommitted⟩, unrequested⟩, settled⟩,
      uncommanded⟩, unfaulted⟩, mode⟩
    exact ⟨settled, ⟨enabled, owned, configured, intended, by simpa using uncommitted, unrequested,
      by simpa using uncommanded, unfaulted⟩, mode⟩
  · rintro ⟨settled, ⟨enabled, owned, configured, intended, uncommitted, unrequested,
      uncommanded, unfaulted⟩, mode⟩
    exact ⟨⟨⟨⟨⟨⟨⟨⟨⟨enabled, owned⟩, configured⟩, intended⟩, by simpa using uncommitted⟩,
      unrequested⟩, settled⟩, by simpa using uncommanded⟩, unfaulted⟩, mode⟩

/-- What the gate asks of an AUTO session. -/
theorem autoOnFailures_eq_nil_iff :
    controller.autoOnFailures now session dailyRuntimeS = [] ↔
      (controller.observation.classification = .valid ∧
        controller.observation.isFresh now controller.config.sensorMaxAgeS = true ∧
        ∃ freshUntil, session.sensorFreshUntilUtc = some freshUntil ∧ now < freshUntil) ∧
      (1 ≤ session.cycle ∧ session.cycle ≤ controller.config.maxCycles) ∧
      session.sessionRuntimeS + controller.config.pulseDurationS ≤
        controller.config.maxSessionRuntimeS ∧
      dailyRuntimeS + controller.config.pulseDurationS ≤ controller.config.maxDailyRuntimeS ∧
      (session.cycle = 1 → session.sessionRuntimeS = 0 →
        ∀ lastEnd, controller.lastSessionEnd = some lastEnd →
          controller.config.minSessionIntervalS ≤ now - lastEnd) := by
  have fresh : (¬ session.sensorFreshUntilUtc.all (fun freshUntil => decide (freshUntil ≤ now)) =
      true) ↔ ∃ freshUntil, session.sensorFreshUntilUtc = some freshUntil ∧ now < freshUntil := by
    cases session.sensorFreshUntilUtc <;> simp
  have interval : (¬ controller.lastSessionEnd.any (fun lastEnd =>
      decide (now - lastEnd < controller.config.minSessionIntervalS)) = true) ↔
      ∀ lastEnd, controller.lastSessionEnd = some lastEnd →
        controller.config.minSessionIntervalS ≤ now - lastEnd := by
    cases controller.lastSessionEnd <;> simp
  simp only [autoOnFailures, List.append_eq_nil_iff, ite_eq_right_iff, List.cons_ne_nil, imp_false,
    not_or, not_and, not_lt, fresh, interval, not_not, ne_eq, Bool.not_eq_false, and_assoc,
    Nat.one_le_iff_ne_zero, Nat.lt_one_iff]

/-- Where the gate agrees and the rest of the authority is there, ON is dispatched. -/
theorem gate_of_agrees {authority : OnAuthority} (held : controller.session = some session)
    (agrees : controller.GateAgrees shared.now dailyRuntimeS)
    (authorized : (controller.evaluateOnAuthority shared session.sessionId true
      authority).authorized = true) :
    controller.gate shared authority sessionId =
      controller.dispatchOn shared.now session authority.reading := by
  obtain ⟨session', held', passed, unexpired⟩ := agrees
  obtain rfl := Option.some.inj (held.symm.trans held')
  have watering : controller.state = .watering := by
    by_contra elsewhere
    simp [finalOnGuardFailures, elsewhere] at passed
  have uncommitted :=
    ((finalOnGuardFailures_eq_nil_iff watering held).mp passed).2.1.uncommitted
  have waits : controller.armedWatchdog.filter (fun _ => decide (session.mode = .auto) &&
      session.sensorFreshUntilUtc.any fun freshUntil => decide (freshUntil ≤ shared.now)) =
      none := by
    simp only [watchdogShortcut, held, Option.any_some, Bool.and_eq_false_iff] at unexpired
    cases armed : controller.armedWatchdog with
    | none => rfl
    | some token =>
      rcases unexpired with disarmed | unexpired
      · simp [armed] at disarmed
      · rw [← Bool.and_eq_false_iff] at unexpired
        simp [Option.filter, unexpired]
  simp only [gate, held, watering, ne_eq, not_true_eq_false, uncommitted, Option.isSome_none,
    Bool.false_eq_true, or_self, if_false, waits, authorized, if_true, dispatchOn]

/-! ## What a start leaves for the gate -/

/-- The input on which `async_dispatch` decides. -/
def decisionInput (controller : ZoneController) (shared : SharedState) (event : ControllerEvent)
    (sessionId : String) : TransitionInput :=
  (controller.rollDaily shared.calendar shared.now).buildInput shared event sessionId

structure Shown (controller : ZoneController) (inp : TransitionInput) (sessionId : String) :
    Prop where
  config : inp.config = controller.config
  state : inp.state = controller.state
  enabled : inp.enabled = controller.enabled
  session : inp.session = controller.session
  activeFault : inp.activeFault = controller.activeFault
  observation : inp.observation = controller.observation
  lastSessionEnd : inp.lastSessionEndUtc = controller.lastSessionEnd
  identity : inp.newSessionIdentity =
    some ⟨sessionId, controller.runId, controller.configFingerprint⟩

theorem decisionInput_shown (controller : ZoneController) (shared : SharedState)
    (event : ControllerEvent) (sessionId : String) :
    controller.Shown (controller.decisionInput shared event sessionId) sessionId := by
  have same := controller.rollDaily_sameGate shared.calendar shared.now
  refine ⟨same.config, same.state, same.enabled, same.session, same.activeFault,
    same.observation, same.lastSessionEnd, ?_⟩
  rw [← same.runId, ← same.configFingerprint]
  rfl

def withPulse (controller : ZoneController) (session : SessionContext) : ZoneController :=
  { controller with
    state := .watering
    session := some session }

/-- A start leaves the controller WATERING with its session, and what the gate reads besides as
it was, without an OFF operation. -/
theorem dispatch_started
    (decided : StateMachine.decide (controller.decisionInput shared event sessionId) = .ok decision)
    (starts : turnOn ∈ decision.actions)
    (dispatched : controller.dispatch shared event sessionId = .ok (after, shared')) :
    ∃ session, decision.session = some session ∧ after.offOperation = none ∧
      SameGate (controller.withPulse session) after := by
  obtain ⟨session, actions, started⟩ := (StateMachine.decide_start decided starts).startsWith
  refine ⟨session, started.session, ?_⟩
  have startActions : ∀ action ∈ decision.actions, StateMachine.isStartAction action = true := by
    cases StateMachine.decide_effect decided with
    | starts _ _ _ _ _ _ _ _ all => exact all
    | clears _ _ _ silent | updates _ _ _ _ _ _ _ silent | keeps _ _ silent =>
      exact absurd starts silent
  simp only [dispatch] at dispatched
  rw [show StateMachine.decide ((controller.rollDaily shared.calendar shared.now).buildInput shared
    event sessionId) = .ok decision from decided] at dispatched
  simp only [started.acts, Bool.false_eq_true, if_false] at dispatched
  have rolled := controller.rollDaily_sameGate shared.calendar shared.now
  have prelude := (controller.rollDaily shared.calendar shared.now).applyPrelude_sameDecided shared
    decision ((controller.rollDaily shared.calendar shared.now).buildInput shared event sessionId)
  have ended := (controller.rollDaily shared.calendar shared.now).applyPrelude_lastSessionEnd shared
    decision ((controller.rollDaily shared.calendar shared.now).buildInput shared event sessionId)
    started.unclosed.2
  split at dispatched
  · cases dispatched
  · rename_i applied
    obtain rfl := Except.ok.inj dispatched
    obtain ⟨same, forgets⟩ := applyActions_sameGate startActions applied
    refine ⟨forgets (.inl starts), SameGate.trans ?_ same⟩
    constructor
    · exact prelude.state.trans (by simp [adopt, started.newState, withPulse])
    · exact prelude.session.trans (by simp [adopt, started.unclosed.1, started.session, withPulse])
    · exact prelude.enabled.trans rolled.enabled
    · exact prelude.runId.trans rolled.runId
    · exact prelude.configFingerprint.trans rolled.configFingerprint
    · exact prelude.config.trans rolled.config
    · exact prelude.activeFault.trans
        (by simpa [adopt, started.uncleared, started.unfaulted.1, withPulse] using rolled.activeFault)
    · exact prelude.observation.trans rolled.observation
    · exact ended.trans rolled.lastSessionEnd
    · exact prelude.offRequested.trans rolled.offRequested
    · exact prelude.inflightOn.trans rolled.inflightOn

/-- The gate reads the started session in the controller that decided the start. -/
theorem gateAgrees_iff_started (same : SameGate (controller.withPulse session) after)
    (forgotten : after.offOperation = none) :
    after.GateAgrees now dailyRuntimeS ↔ controller.Passes now session dailyRuntimeS := by
  have settled : after.offOperationActive = false := by
    simp [offOperationActive, currentOffOperation, forgotten]
  have command : Commandable after session ↔ Commandable controller session := by
    constructor <;>
    · rintro ⟨enabled, owned, configured, intended, uncommitted, unrequested, uncommanded, unfaulted⟩
      constructor <;> simp_all [same.enabled, same.runId, same.configFingerprint,
        same.offRequested, same.inflightOn, same.activeFault, withPulse]
  have modes : after.modeFailures now session dailyRuntimeS =
      controller.modeFailures now session dailyRuntimeS := by
    simp only [modeFailures, autoOnFailures, manualOnFailures, same.observation, same.config,
      same.lastSessionEnd, withPulse]
  have agrees := @finalOnGuardFailures_eq_nil_iff after session now dailyRuntimeS same.state
    same.session
  rw [and_iff_right settled, Passes, command, modes] at agrees
  rw [Passes, ← agrees]
  constructor
  · rintro ⟨session', held', passed, -⟩
    obtain rfl := Option.some.inj (same.session.symm.trans held')
    exact passed
  · intro passed
    refine ⟨session, same.session, passed, ?_⟩
    have unexpired := (agrees.mp passed).2
    simp only [watchdogShortcut, show after.session = some session from same.session,
      Option.any_some, Bool.and_eq_false_iff, decide_eq_false_iff_not]
    by_cases auto : session.mode = .auto
    · rw [modeFailures, if_pos auto, autoOnFailures_eq_nil_iff] at unexpired
      obtain ⟨⟨-, -, freshUntil, fresh, early⟩, -⟩ := unexpired
      exact .inr (.inr (by simp [fresh, early]))
    · exact .inr (.inl auto)

/-! ## What the gate asks beyond the guards -/

/-- What the gate asks of the controller beyond the guards of the start: no OFF requested and no
ON in flight; of an automatic start also that its report has not just expired, of a first
pulse that no fault is active, of a next pulse that the session is the controller's own.  The
bounds of the configuration hold of every valid one. -/
structure MeetsGate (controller : ZoneController) (now : Instant) (event : ControllerEvent) :
    Prop where
  unrequested : controller.offRequested = false
  uncommanded : controller.inflightOn = none
  fresh : event.requestsManual = false → ∀ reportedAt,
    controller.observation.reportedAtUtc = some reportedAt →
    now < reportedAt + controller.config.sensorMaxAgeS
  begins : event.requestsManual = false → controller.state = .idle →
    controller.activeFault = none ∧ 1 ≤ controller.config.maxCycles ∧
      controller.config.pulseDurationS ≤ controller.config.maxSessionRuntimeS
  continues : event.requestsManual = false → controller.state = .soaking →
    controller.enabled = true ∧ controller.activeFault = none ∧
      ∀ session, controller.session = some session →
        session.ownerRunId = controller.runId ∧
        session.configFingerprint = controller.configFingerprint
  manual : event.requestsManual = true →
    0 < controller.config.manualMaxDurationS ∧ 0 < controller.config.maxSessionRuntimeS

variable {inp : TransitionInput}

theorem fresh_of_freshValid (shown : controller.Shown inp sessionId) (clock : inp.nowUtc = now)
    (fresh : StateMachine.freshValid inp = true) :
    controller.observation.classification = .valid ∧
      controller.observation.isFresh now controller.config.sensorMaxAgeS = true := by
  simp only [StateMachine.freshValid, Bool.and_eq_true, beq_iff_eq, shown.observation, shown.config,
    clock] at fresh
  exact fresh

theorem unfaulted_iff_auto (auto : session.mode = .auto) :
    controller.activeFault.all (fun fault => session.mode = .manual && fault.allowsManual) = true ↔
      controller.activeFault = none := by
  cases controller.activeFault <;> simp [auto]

/-- T1: the report must not have just expired, and no fault be active. -/
theorem meetsGate_iff_first {reportedAt : Instant} (shown : controller.Shown inp sessionId)
    (clock : inp.nowUtc = now) (automatic : event.requestsManual = false) (idle : inp.state = .idle)
    (fresh : StateMachine.freshValid inp = true)
    (reported : inp.observation.reportedAtUtc = some reportedAt)
    (passed : inp.enabled = true ∧ StateMachine.intervalElapsed inp = true ∧
      StateMachine.dailyFits inp = true) :
    controller.Passes now (StateMachine.firstSession inp reportedAt
        ⟨sessionId, controller.runId, controller.configFingerprint⟩) inp.dailyRuntimeS ↔
      controller.MeetsGate now event := by
  obtain ⟨valid, isFresh⟩ := fresh_of_freshValid shown clock fresh
  obtain ⟨enabled, interval, daily⟩ := passed
  rw [shown.enabled] at enabled
  rw [shown.observation] at reported
  simp only [StateMachine.dailyFits, decide_eq_true_eq, shown.config] at daily
  simp only [Passes, modeFailures, StateMachine.firstSession, if_true, autoOnFailures_eq_nil_iff,
    shown.config]
  constructor
  · rintro ⟨command, ⟨-, -, freshUntil, deadline, early⟩, cycles, fits, -⟩
    obtain rfl := Option.some.inj deadline
    refine ⟨command.unrequested, command.uncommanded, ?_, ?_, ?_, ?_⟩
    · rintro - reportedAt' reported'
      obtain rfl := Option.some.inj (reported.symm.trans reported')
      exact early
    · exact fun _ _ => ⟨(unfaulted_iff_auto rfl).mp command.unfaulted, cycles.2, by simpa using fits⟩
    · exact fun _ soaking => by simp [← shown.state, idle] at soaking
    · exact fun manual => by simp [automatic] at manual
  · rintro ⟨unrequested, uncommanded, early, begins, -, -⟩
    obtain ⟨unfaulted, cycles, fits⟩ := begins automatic (shown.state ▸ idle)
    refine ⟨⟨enabled, rfl, rfl, rfl, rfl, unrequested, uncommanded,
      (unfaulted_iff_auto rfl).mpr unfaulted⟩,
      ⟨valid, isFresh, _, rfl, early automatic reportedAt reported⟩, ⟨le_rfl, cycles⟩,
      by simpa using fits, daily, ?_⟩
    rintro - - lastEnd ended
    simp only [StateMachine.intervalElapsed, shown.lastSessionEnd, shown.config, clock, ended,
      decide_eq_true_eq] at interval
    exact interval

/-- T25: the report must not have just expired, no fault be active, and the session be the
controller's own. -/
theorem meetsGate_iff_next {reportedAt : Instant} {value : Moisture}
    (shown : controller.Shown inp sessionId) (clock : inp.nowUtc = now)
    (automatic : event.requestsManual = false) (soaking : inp.state = .soaking)
    (held : inp.session = some session) (uncommitted : session.pendingTerminationReason = none)
    (auto : session.mode = .auto) (counted : 1 ≤ session.cycle)
    (fresh : StateMachine.freshValid inp = true)
    (reported : inp.observation.reportedAtUtc = some reportedAt)
    (passed : session.cycle < inp.config.maxCycles ∧ StateMachine.sessionFits inp session = true ∧
      StateMachine.dailyFits inp = true) :
    controller.Passes now (StateMachine.nextSession inp reportedAt
        { session with lastRecheckValue := some value }) inp.dailyRuntimeS ↔
      controller.MeetsGate now event := by
  obtain ⟨valid, isFresh⟩ := fresh_of_freshValid shown clock fresh
  obtain ⟨cycles, fits, daily⟩ := passed
  rw [shown.observation] at reported
  rw [shown.session] at held
  rw [shown.config] at cycles
  simp only [StateMachine.dailyFits, decide_eq_true_eq, shown.config] at daily
  simp only [StateMachine.sessionFits, decide_eq_true_eq, shown.config] at fits
  simp only [Passes, modeFailures, StateMachine.nextSession, auto, if_true, autoOnFailures_eq_nil_iff,
    shown.config]
  constructor
  · rintro ⟨command, ⟨-, -, freshUntil, deadline, early⟩, -⟩
    obtain rfl := Option.some.inj deadline
    refine ⟨command.unrequested, command.uncommanded, ?_, ?_, ?_, ?_⟩
    · rintro - reportedAt' reported'
      obtain rfl := Option.some.inj (reported.symm.trans reported')
      exact early
    · exact fun _ idle => by simp [← shown.state, soaking] at idle
    · refine fun _ _ => ⟨command.enabled, (unfaulted_iff_auto rfl).mp command.unfaulted, ?_⟩
      rintro session' held'
      obtain rfl := Option.some.inj (held.symm.trans held')
      exact ⟨command.owned, command.configured⟩
    · exact fun manual => by simp [automatic] at manual
  · rintro ⟨unrequested, uncommanded, early, -, continues, -⟩
    obtain ⟨enabled, unfaulted, own⟩ := continues automatic (shown.state ▸ soaking)
    obtain ⟨owned, configured⟩ := own session held
    refine ⟨⟨enabled, owned, configured, rfl, uncommitted, unrequested, uncommanded,
      (unfaulted_iff_auto rfl).mpr unfaulted⟩,
      ⟨valid, isFresh, _, rfl, early automatic reportedAt reported⟩,
      ⟨Nat.le_add_left 1 _, cycles⟩, fits, daily, ?_⟩
    intro second
    omega

theorem manualOnFailures_eq_nil_iff :
    controller.manualOnFailures session dailyRuntimeS = [] ↔
      ∃ effective, session.manualEffectiveDurationS = some effective ∧ 0 < effective ∧
        effective ≤ controller.config.manualMaxDurationS ∧
        effective ≤ controller.config.maxSessionRuntimeS ∧
        dailyRuntimeS + effective ≤ controller.config.maxDailyRuntimeS := by
  simp only [manualOnFailures]
  cases session.manualEffectiveDurationS with
  | none => simp
  | some effective =>
    simp only [Option.some.injEq, exists_eq_left']
    split
    · rename_i nothing
      simp [not_lt.mpr nothing]
    · rename_i positive
      simp [not_le.mp positive]

/-- T3 and T40: the bounds of the configuration must be positive. -/
theorem meetsGate_iff_manual {requested : Seconds} {row : String}
    (shown : controller.Shown inp sessionId) (manual : event.requestsManual = true)
    (passed : StateMachine.manualGuardFailures inp (some requested) = []) :
    controller.Passes now (StateMachine.manualSession inp requested row
        ⟨sessionId, controller.runId, controller.configFingerprint⟩) inp.dailyRuntimeS ↔
      controller.MeetsGate now event := by
  simp only [StateMachine.manualGuardFailures, List.append_eq_nil_iff, ite_eq_left_iff,
    ite_eq_right_iff, List.cons_ne_nil, imp_false, not_not, decide_eq_true_eq, not_le,
    shown.enabled, shown.activeFault] at passed
  obtain ⟨⟨⟨⟨⟨⟨positive, enabled⟩, -⟩, allowed⟩, -⟩, remains⟩, -⟩ := passed
  have effective : (StateMachine.clampManual inp requested).1 =
      min (min (min requested controller.config.manualMaxDurationS)
        controller.config.maxSessionRuntimeS)
        (controller.config.maxDailyRuntimeS - inp.dailyRuntimeS) := by
    simp [StateMachine.clampManual, StateMachine.manualCaps, StateMachine.dailyRemaining,
      shown.config]
  have remains : 0 < controller.config.maxDailyRuntimeS - inp.dailyRuntimeS := by
    simpa only [StateMachine.dailyRemaining, shown.config] using remains
  have unfaulted : controller.activeFault.all (fun fault =>
      (StateMachine.manualSession inp requested row ⟨sessionId, controller.runId,
        controller.configFingerprint⟩).mode = .manual && fault.allowsManual) = true := by
    cases faulted : controller.activeFault with
    | none => rfl
    | some fault => simpa [faulted, StateMachine.manualSession] using allowed
  simp only [Passes, modeFailures, StateMachine.manualSession, reduceCtorEq, if_false,
    manualOnFailures_eq_nil_iff, Option.some.injEq, exists_eq_left', effective, lt_min_iff]
  constructor
  · rintro ⟨command, ⟨⟨⟨-, duration⟩, runtime⟩, -⟩, -⟩
    refine ⟨command.unrequested, command.uncommanded, ?_, ?_, ?_, fun _ => ⟨duration, runtime⟩⟩
    all_goals exact fun automatic => by simp [manual] at automatic
  · rintro ⟨unrequested, uncommanded, -, -, -, bounds⟩
    obtain ⟨duration, runtime⟩ := bounds manual
    refine ⟨⟨enabled, rfl, rfl, rfl, rfl, unrequested, uncommanded, unfaulted⟩,
      ⟨⟨⟨positive, duration⟩, runtime⟩, remains⟩, ?_, ?_, ?_⟩
    · exact (min_le_left _ _).trans ((min_le_left _ _).trans (min_le_right _ _))
    · exact (min_le_left _ _).trans (min_le_right _ _)
    · have within := min_le_right (min (min requested controller.config.manualMaxDurationS)
        controller.config.maxSessionRuntimeS)
        (controller.config.maxDailyRuntimeS - inp.dailyRuntimeS)
      linarith

/-! ## Every start -/

/-- The sessions that soak are automatic ones with a first pulse behind them. -/
def SoaksAutomatically (state : ControllerState) (session : SessionContext) : Prop :=
  (session.mode = .auto → 1 ≤ session.cycle) ∧ (state = .soaking → session.mode = .auto)

/-- For a controller whose soaks are automatic, the gate agrees with a start exactly when the
controller meets what it asks beyond the guards. -/
theorem gateAgrees_iff
    (soaks : ∀ session, controller.session = some session →
      SoaksAutomatically controller.state session)
    (decided : StateMachine.decide (controller.decisionInput shared event sessionId) = .ok decision)
    (starts : turnOn ∈ decision.actions)
    (dispatched : controller.dispatch shared event sessionId = .ok (after, shared')) :
    after.GateAgrees shared.now (controller.decisionInput shared event sessionId).dailyRuntimeS ↔
      controller.MeetsGate shared.now event := by
  obtain ⟨session, started, forgotten, same⟩ := dispatch_started decided starts dispatched
  rw [gateAgrees_iff_started same forgotten]
  have shown := controller.decisionInput_shown shared event sessionId
  have minted {identity : SessionIdentity}
      (given : (controller.decisionInput shared event sessionId).newSessionIdentity =
        some identity) :
      identity = ⟨sessionId, controller.runId, controller.configFingerprint⟩ :=
    Option.some.inj (given.symm.trans shown.identity)
  have request : (controller.decisionInput shared event sessionId).event = event := rfl
  have may : StateMachine.mayStart event = true := by
    cases StateMachine.decide_effect decided with
    | starts _ _ _ _ _ allowed => exact allowed.1
    | clears _ _ _ silent | updates _ _ _ _ _ _ _ silent | keeps _ _ silent =>
      exact absurd starts silent
  cases StateMachine.decide_start decided starts with
  | first reportedAt identity idle fresh _ reported given evaluated first =>
    obtain rfl := minted given
    obtain rfl := Option.some.inj (first.session.symm.trans started)
    refine meetsGate_iff_first shown rfl ?_ idle fresh reported
      (StateMachine.passed_of_evaluateAutoStart evaluated starts)
    cases manual : event.requestsManual with
    | false => rfl
    | true => cases StateMachine.manual_of_start decided started manual idle
  | next before reportedAt value soaking held uncommitted qualifies _ reported rechecked next =>
    obtain rfl := Option.some.inj (next.session.symm.trans started)
    obtain ⟨counted, auto⟩ := soaks before (shown.session.symm.trans held)
    have auto := auto (shown.state.symm.trans soaking)
    refine meetsGate_iff_next shown rfl ?_ soaking held uncommitted auto (counted auto)
      (StateMachine.freshValid_of_postQualifies qualifies) reported
      (StateMachine.passed_of_soakingRecheck starts rechecked)
    cases event with
    | manualStartRequested requestedS =>
      -- A manual request during a soak is refused.
      simp only [StateMachine.decide, request, soaking, StateMachine.decideSoaking, held,
        uncommitted, Option.isSome_none, Bool.false_eq_true, if_false, Except.ok.injEq] at decided
      rw [← decided] at starts
      cases starts
    | _ => rfl
  | manual requested row identity rests passed given manual =>
    obtain rfl := minted given
    obtain rfl := Option.some.inj (manual.session.symm.trans started)
    refine meetsGate_iff_manual shown ?_ passed
    cases automatic : event.requestsManual with
    | true => rfl
    | false =>
      have rests := rests.imp And.left And.left
      cases StateMachine.auto_of_start decided started automatic may rests

/-- Soaks stay automatic, whatever is decided. -/
theorem soaksAutomatically_rule : SessionRule (fun _ => True) SoaksAutomatically where
  starts := by
    rintro inp decision session - - - start started
    refine ⟨fun auto => ?_, by simp⟩
    cases start with
    | first _ _ _ _ _ _ _ _ first =>
      obtain rfl := Option.some.inj (first.session.symm.trans started)
      exact le_rfl
    | next before _ _ _ _ _ _ _ _ _ next =>
      obtain rfl := Option.some.inj (next.session.symm.trans started)
      exact Nat.le_add_left 1 before.cycle
    | manual _ _ _ _ _ _ manual =>
      obtain rfl := Option.some.inj (manual.session.symm.trans started)
      cases auto
  changes := by
    rintro inp decision before after - ⟨counted, soaks⟩ change
    obtain ⟨mode, cycle⟩ := change.mode_cycle
    rw [SoaksAutomatically, mode, cycle]
    refine ⟨counted, fun soaking => ?_⟩
    rcases change.soaking soaking with state | auto
    · exact soaks state
    · exact auto
  rests := fun ⟨counted, _⟩ _ away => ⟨counted, fun soaking => absurd soaking away⟩
  estimated := fun holds => holds
  commanded := fun _ holds _ => holds
  failed := fun ⟨counted, _⟩ => ⟨counted, by simp⟩

end ZoneController

namespace Entry

open ZoneController

variable {κ : Type} [DecidableEq κ] {guard : Entry κ → EntryLabel κ → Entry κ → Prop}
  {start finish : Entry κ}

/-- In every state that an entry reaches: when a controller decides a start and applies it with
nothing in between, the final gate has nothing against its ON exactly when the controller
meets what the gate asks beyond the guards of the start. -/
theorem gateAgrees_iff_of_run (reached : system.Run guard start finish) (key : κ)
    (initial : (start.controllers key).zone.Holds SoaksAutomatically)
    {event : ControllerEvent} {sessionId : String} {decision : Decision}
    (decided : StateMachine.decide
      ((finish.controllers key).decisionInput finish.shared event sessionId) = .ok decision)
    (starts : turnOn ∈ decision.actions) {after : ZoneController} {shared : SharedState}
    (dispatched :
      (finish.controllers key).dispatch finish.shared event sessionId = .ok (after, shared)) :
    after.GateAgrees finish.shared.now
        ((finish.controllers key).decisionInput finish.shared event sessionId).dailyRuntimeS ↔
      (finish.controllers key).MeetsGate finish.shared.now event := by
  have zones : Zone.system.Run (fun _ _ _ => True) (start.controllers key).zone
      (finish.controllers key).zone := zone_reaches reached key
  have holds : (finish.controllers key).zone.Holds SoaksAutomatically :=
    zones.preserves initial fun _ _ _ held stepped _ =>
      held.step soaksAutomatically_rule stepped fun _ _ => trivial
  exact gateAgrees_iff holds decided starts dispatched

/-- Zone `bed` alone, with a report of a given time. -/
def reportedEntry (reportedAtUtc : Instant) : Entry Unit where
  controllers _ := { sampleController with observation := ⟨some 10, .valid, some reportedAtUtc⟩ }
  shared := sampleShared

theorem reportedEntry_starts {reportedAtUtc : Instant}
    (starts : ((StateMachine.decide (((reportedEntry reportedAtUtc).controllers ()).decisionInput
      sampleShared .autoEvaluate "session")).toOption.any fun decision =>
        decide (turnOn ∈ decision.actions)) = true)
    (applies : (((reportedEntry reportedAtUtc).controllers ()).dispatch sampleShared .autoEvaluate
      "session").toOption.isSome = true) :
    ∃ decision after shared, StateMachine.decide
      (((reportedEntry reportedAtUtc).controllers ()).decisionInput sampleShared .autoEvaluate
        "session") = .ok decision ∧ turnOn ∈ decision.actions ∧
      ((reportedEntry reportedAtUtc).controllers ()).dispatch sampleShared .autoEvaluate
        "session" = .ok (after, shared) := by
  generalize ((reportedEntry reportedAtUtc).controllers ()).dispatch sampleShared .autoEvaluate
    "session" = dispatched at applies ⊢
  generalize StateMachine.decide (((reportedEntry reportedAtUtc).controllers ()).decisionInput
    sampleShared .autoEvaluate "session") = decided at starts ⊢
  cases dispatched with
  | error err => cases applies
  | ok result =>
    cases decided with
    | error err => cases starts
    | ok decision => exact ⟨decision, result.1, result.2, rfl, of_decide_eq_true starts, rfl⟩

/-- The zone meets the gate as long as its report has not expired. -/
theorem reportedEntry_meetsGate {reportedAtUtc : Instant} :
    ((reportedEntry reportedAtUtc).controllers ()).MeetsGate 100 .autoEvaluate ↔
      100 < reportedAtUtc + 3600 := by
  constructor
  · intro meets
    exact meets.fresh rfl reportedAtUtc rfl
  · intro early
    have bounds : 1 ≤ (sampleConfig "sensor.soil" "switch.a").maxCycles ∧
        (sampleConfig "sensor.soil" "switch.a").pulseDurationS ≤
          (sampleConfig "sensor.soil" "switch.a").maxSessionRuntimeS := by decide +kernel
    refine ⟨rfl, rfl, ?_, fun _ _ => ⟨rfl, bounds⟩, (fun _ soaking => nomatch soaking),
      fun manual => nomatch manual⟩
    rintro - reportedAt reported
    obtain rfl := Option.some.inj reported
    exact early

/-- The gate agrees with a start on a report of the last minute. -/
theorem gateAgrees_iff_of_run_fresh :
    ∃ decision after shared, StateMachine.decide (((reportedEntry 50).controllers ()).decisionInput
        sampleShared .autoEvaluate "session") = .ok decision ∧ turnOn ∈ decision.actions ∧
      ((reportedEntry 50).controllers ()).dispatch sampleShared .autoEvaluate "session" =
        .ok (after, shared) ∧
      after.GateAgrees 100 (((reportedEntry 50).controllers ()).decisionInput sampleShared
        .autoEvaluate "session").dailyRuntimeS := by
  obtain ⟨decision, after, shared, decided, starts, dispatched⟩ :=
    @reportedEntry_starts 50 (by decide +kernel) (by decide +kernel)
  refine ⟨decision, after, shared, decided, starts, dispatched, ?_⟩
  refine (@gateAgrees_iff_of_run Unit _ (fun _ _ _ => True) (reportedEntry 50) (reportedEntry 50)
    .refl () ?_ _ _ _ decided starts _ _ dispatched).mpr (reportedEntry_meetsGate.mpr (by norm_num))
  intro session held
  cases held

/-- A report that is exactly as old as it may be is fresh for the start and has expired for the
gate. -/
theorem not_gateAgrees_at_deadline :
    ¬ ∀ (start finish : Entry Unit) (event : ControllerEvent) (sessionId : String)
      (decision : Decision) (after : ZoneController) (shared : SharedState),
      system.Run (fun _ _ _ => True) start finish →
      (start.controllers ()).zone.Holds SoaksAutomatically →
      StateMachine.decide ((finish.controllers ()).decisionInput finish.shared event sessionId) =
        .ok decision → turnOn ∈ decision.actions →
      (finish.controllers ()).dispatch finish.shared event sessionId = .ok (after, shared) →
      after.GateAgrees finish.shared.now
        ((finish.controllers ()).decisionInput finish.shared event sessionId).dailyRuntimeS := by
  intro claimed
  obtain ⟨decision, after, shared, decided, starts, dispatched⟩ :=
    @reportedEntry_starts (-3500) (by decide +kernel) (by decide +kernel)
  have soaks : ((reportedEntry (-3500)).controllers ()).zone.Holds SoaksAutomatically := by
    intro session held
    cases held
  have agrees := claimed (reportedEntry (-3500)) _ .autoEvaluate "session" decision after shared
    .refl soaks decided starts dispatched
  have meets := (gateAgrees_iff soaks decided starts dispatched).mp agrees
  have early := reportedEntry_meetsGate.mp meets
  norm_num at early

end Entry

end MoistureLoop
