import MoistureLoop.StateMachine.Effect

/-! # The decisions that start a pulse

T1 and T3 or T40 create a session, T25 continues one.  Each starts exactly the session
named here, with the actions named here, and touches nothing else. -/

open MoistureLoop.Action

namespace MoistureLoop.StateMachine

/-- The session that T1 creates. -/
def firstSession (inp : TransitionInput) (reportedAt : Instant) (identity : SessionIdentity) :
    SessionContext where
  sessionId := identity.sessionId
  ownerRunId := identity.ownerRunId
  configFingerprint := identity.configFingerprint
  mode := .auto
  startedAtUtc := inp.nowUtc
  cycle := 1
  pulseIntentAtUtc := some inp.nowUtc
  sensorFreshUntilUtc := some (reportedAt + inp.config.sensorMaxAgeS)
  sensorFreshnessWatchdogGeneration := 1
  moistureAtStart := inp.observation.value

/-- The session that T25 continues. -/
def nextSession (inp : TransitionInput) (reportedAt : Instant) (session : SessionContext) :
    SessionContext :=
  { session with
    cycle := session.cycle + 1
    pulseIntentAtUtc := some inp.nowUtc
    pulseCommandedAtUtc := none
    pulseConfirmedAtUtc := none
    pulseEndsAtUtc := none
    offConfirmedAtUtc := none
    soakEndsAtUtc := none
    recheckNotBeforeUtc := none
    recheckGraceDeadlineAtUtc := none
    sensorFreshUntilUtc := some (reportedAt + inp.config.sensorMaxAgeS)
    sensorFreshnessWatchdogGeneration := session.sensorFreshnessWatchdogGeneration + 1 }

/-- The session that T3 and T40 create. -/
def manualSession (inp : TransitionInput) (requested : Seconds) (row : String)
    (identity : SessionIdentity) : SessionContext where
  sessionId := identity.sessionId
  ownerRunId := identity.ownerRunId
  configFingerprint := identity.configFingerprint
  mode := .manual
  startedAtUtc := inp.nowUtc
  cycle := 0
  pulseIntentAtUtc := some inp.nowUtc
  manualRequestedDurationS := some requested
  manualEffectiveDurationS := some (clampManual inp requested).1
  manualClampReasons := (clampManual inp requested).2
  retainedSensorFault := if row = "T40" then retainedFault inp.activeFault else none
  moistureAtStart := if inp.observation.classification = .valid then inp.observation.value else none

def autoStartActions (inp : TransitionInput) (token : WatchdogToken) : List Action :=
  [persistState "hazard_intent", armWatchdog token, turnOn,
    armTimer .onConfirmTimeout (inp.nowUtc + inp.config.actuatorConfirmTimeoutS)]

def manualStartActions (inp : TransitionInput) : List Action :=
  [persistState "hazard_intent", turnOn,
    armTimer .onConfirmTimeout (inp.nowUtc + inp.config.actuatorConfirmTimeoutS),
    emitSessionStarted]

structure StartsWith (decision : Decision) (session : SessionContext) (actions : List Action) :
    Prop where
  session : decision.session = some session
  actions : decision.actions = actions
  newState : decision.newState = some .watering
  unfaulted : decision.fault = none ∧ decision.secondaryFault = none
  unclosed : decision.clearSession = false ∧ decision.finalSession = none
  uncleared : decision.clearFault = false
  acts : decision.noOp = false

variable {inp : TransitionInput} {decision : Decision}

theorem startAutoPulse_first (decided : startAutoPulse inp none = .ok decision) :
    ∃ reportedAt identity, inp.observation.reportedAtUtc = some reportedAt ∧
      inp.newSessionIdentity = some identity ∧ decision.transitionId = some "T1" ∧
      StartsWith decision (firstSession inp reportedAt identity)
        (autoStartActions inp ⟨1, reportedAt + inp.config.sensorMaxAgeS⟩ ++
          [emitSessionStarted]) := by
  unfold startAutoPulse at decided
  split at decided
  · cases decided
  · rename_i reportedAt reported
    split at decided
    · split at decided
      · cases decided
      · rename_i identity minted
        obtain rfl := Except.ok.inj decided
        exact ⟨reportedAt, identity, reported, minted, rfl,
          ⟨rfl, rfl, rfl, ⟨rfl, rfl⟩, ⟨rfl, rfl⟩, rfl, rfl⟩⟩
    · rename_i absurd
      cases absurd

theorem startAutoPulse_next {session : SessionContext}
    (decided : startAutoPulse inp (some session) = .ok decision) :
    ∃ reportedAt, inp.observation.reportedAtUtc = some reportedAt ∧
      decision.transitionId = some "T25" ∧
      StartsWith decision (nextSession inp reportedAt session)
        (autoStartActions inp
          ⟨session.sensorFreshnessWatchdogGeneration + 1,
            reportedAt + inp.config.sensorMaxAgeS⟩) := by
  unfold startAutoPulse at decided
  split at decided
  · cases decided
  · rename_i reportedAt reported
    obtain rfl := Except.ok.inj decided
    exact ⟨reportedAt, reported, rfl, ⟨rfl, rfl, rfl, ⟨rfl, rfl⟩, ⟨rfl, rfl⟩, rfl, rfl⟩⟩

theorem manualStart_started {requested : Seconds} {row : String}
    (decided : manualStart inp (some requested) row = .ok decision)
    (started : decision.session.isSome = true) :
    ∃ identity, inp.newSessionIdentity = some identity ∧ decision.transitionId = some row ∧
      StartsWith decision (manualSession inp requested row identity) (manualStartActions inp) := by
  simp only [manualStart] at decided
  split at decided
  · rename_i asked _ same _
    obtain rfl := Option.some.inj same
    split at decided
    · obtain rfl := Except.ok.inj decided
      cases started
    · split at decided
      · cases decided
      · rename_i identity minted
        obtain rfl := Except.ok.inj decided
        exact ⟨identity, minted, rfl, ⟨rfl, rfl, rfl, ⟨rfl, rfl⟩, ⟨rfl, rfl⟩, rfl, rfl⟩⟩
  · obtain rfl := Except.ok.inj decided
    cases started

/-- What a decision with a TurnOn is: T1, T25, or a manual start. -/
inductive PulseStart (inp : TransitionInput) (decision : Decision) : Prop where
  | first (reportedAt : Instant) (identity : SessionIdentity) : inp.state = .idle →
      freshValid inp = true → actuatorReady inp = true →
      inp.observation.reportedAtUtc = some reportedAt → inp.newSessionIdentity = some identity →
      evaluateAutoStart inp = .ok decision →
      StartsWith decision (firstSession inp reportedAt identity)
        (autoStartActions inp ⟨1, reportedAt + inp.config.sensorMaxAgeS⟩ ++
          [emitSessionStarted]) → PulseStart inp decision
  | next (session : SessionContext) (reportedAt : Instant) (value : Moisture) :
      inp.state = .soaking → inp.session = some session →
      session.pendingTerminationReason = none → postQualifies inp = true →
      inp.actuator.provenOff = true → inp.observation.reportedAtUtc = some reportedAt →
      soakingRecheck inp session = .ok decision →
      StartsWith decision (nextSession inp reportedAt { session with lastRecheckValue := some value })
        (autoStartActions inp
          ⟨session.sensorFreshnessWatchdogGeneration + 1,
            reportedAt + inp.config.sensorMaxAgeS⟩) → PulseStart inp decision
  | manual (requested : Seconds) (row : String) (identity : SessionIdentity) :
      (inp.state = .idle ∧ row = "T3") ∨ (inp.state = .fault ∧ row = "T40") →
      manualGuardFailures inp (some requested) = [] → inp.newSessionIdentity = some identity →
      StartsWith decision (manualSession inp requested row identity) (manualStartActions inp) →
      PulseStart inp decision

theorem turnOn_of_pulseStart (start : PulseStart inp decision) : turnOn ∈ decision.actions := by
  cases start with
  | first _ _ _ _ _ _ _ _ started => simp [started.actions, autoStartActions]
  | next _ _ _ _ _ _ _ _ _ _ started => simp [started.actions, autoStartActions]
  | manual _ _ _ _ _ _ started => simp [started.actions, manualStartActions]

/-- An automatic start that requests ON has passed every guard. -/
theorem evaluateAutoStart_start (idle : inp.state = .idle) (starts : turnOn ∈ decision.actions)
    (decided : evaluateAutoStart inp = .ok decision) : PulseStart inp decision := by
  have whole := decided
  unfold evaluateAutoStart at decided
  cases fresh : freshnessFailures inp with
  | error err => simp [fresh] at decided
  | ok freshness =>
    simp only [fresh] at decided
    split at decided
    · obtain rfl := Except.ok.inj decided
      simp only at starts
      split at starts <;> simp at starts
    · rename_i passed
      have ready := ready_of_autoStartFailures fresh (not_not.mp passed)
      split at decided
      · obtain ⟨reportedAt, identity, reported, minted, -, started⟩ := startAutoPulse_first decided
        exact .first reportedAt identity idle ready.2 ready.1 reported minted whole started
      · obtain rfl := Except.ok.inj decided
        simp at starts

theorem manualStart_start {requestedS : Option Seconds} {row : String}
    (from' : (inp.state = .idle ∧ row = "T3") ∨ (inp.state = .fault ∧ row = "T40"))
    (starts : turnOn ∈ decision.actions)
    (decided : manualStart inp requestedS row = .ok decision) : PulseStart inp decision := by
  have whole := decided
  simp only [manualStart] at decided
  split at decided
  · rename_i requested accepted
    split at decided
    · obtain rfl := Except.ok.inj decided
      simp at starts
    · split at decided
      · cases decided
      · have started : decision.session.isSome = true := by
          obtain rfl := Except.ok.inj decided
          rfl
        obtain ⟨identity, minted, -, started⟩ := manualStart_started whole started
        exact .manual requested row identity from' accepted minted started
  · obtain rfl := Except.ok.inj decided
    simp at starts

theorem soakingRecheck_start {session : SessionContext} (soaking : inp.state = .soaking)
    (held : inp.session = some session) (uncommitted : session.pendingTerminationReason = none)
    (qualifies : postQualifies inp = true) (starts : turnOn ∈ decision.actions)
    (decided : soakingRecheck inp session = .ok decision) : PulseStart inp decision := by
  have whole := decided
  unfold soakingRecheck at decided
  split at decided
  · cases decided
  · rename_i value _
    simp only at decided
    repeat'
      first
      | (split at decided; · obtain rfl := Except.ok.inj decided
                             simp [finalizeSoakingCompletion, finalizeSoakingFault] at starts)
    rename_i granted
    simp only [Bool.not_eq_true', Bool.not_eq_false, Bool.and_eq_true] at granted
    obtain ⟨reportedAt, reported, -, started⟩ := startAutoPulse_next decided
    exact .next session reportedAt value soaking held uncommitted qualifies granted.2 reported
      whole started

/-! ## The ways through a soak -/

/-- The decision leaves the soak as it is: T22, T23, an offered grant that is declined, or
nothing at all. -/
structure Waits (decision : Decision) : Prop where
  row : decision.transitionId ∈ [none, some "T22", some "T23"]
  session : decision.session = none ∧ decision.clearSession = false
  state : decision.newState = none ∨ decision.newState = some .soaking
  silent : turnOn ∉ decision.actions

theorem waits_noOp : Waits noOp := ⟨by simp [noOp], ⟨rfl, rfl⟩, .inl rfl, by simp [noOp]⟩

/-- A report during a soak: it waits, it faults, or it qualifies for the recheck. -/
theorem soakingMoisture_cases {session : SessionContext} {observation : MoistureObservation}
    (decided : soakingMoisture inp session observation = .ok decision) :
    ∃ soakEnds, session.soakEndsAtUtc = some soakEnds ∧
      (Waits decision ∨ (soakEnds ≤ effectiveAt inp observation ∧
        ((observation.classification = .invalid ∧
            decision = finalizeSoakingFault session "T29" .sensorFault .sensorInvalid) ∨
          (observation.classification = .unavailable ∧
            decision = finalizeSoakingFault session "T30" .sensorFault .sensorUnavailable) ∨
          (postQualifies inp = true ∧ soakingRecheck inp session = .ok decision)))) := by
  unfold soakingMoisture at decided
  split at decided
  · cases decided
  · rename_i soakEnds soaks
    refine ⟨soakEnds, soaks, ?_⟩
    split at decided
    · obtain rfl := Except.ok.inj decided
      exact .inl ⟨by simp, ⟨rfl, rfl⟩, .inr rfl, by simp⟩
    · rename_i late
      have reached : soakEnds ≤ effectiveAt inp observation := not_lt.mp late
      split at decided
      · exact .inr ⟨reached, .inl ⟨‹_›, (Except.ok.inj decided).symm⟩⟩
      · split at decided
        · exact .inr ⟨reached, .inr (.inl ⟨‹_›, (Except.ok.inj decided).symm⟩)⟩
        · split at decided
          · exact .inr ⟨reached, .inr (.inr ⟨‹_›, decided⟩)⟩
          · obtain rfl := Except.ok.inj decided
            exact .inl waits_noOp

/-- The soak deadline, an evaluation or a grant: it waits, or it qualifies for the recheck
after the deadline. -/
theorem soakingDeadlineOrEvaluate_cases {session : SessionContext}
    (decided : soakingDeadlineOrEvaluate inp session = .ok decision) :
    ∃ soakEnds, session.soakEndsAtUtc = some soakEnds ∧
      (Waits decision ∨ (soakEnds ≤ inp.nowUtc ∧ postQualifies inp = true ∧
        soakingRecheck inp session = .ok decision)) := by
  unfold soakingDeadlineOrEvaluate at decided
  split at decided
  · cases decided
  · rename_i soakEnds soaks
    refine ⟨soakEnds, soaks, ?_⟩
    split at decided
    · obtain rfl := Except.ok.inj decided
      exact .inl waits_noOp
    · rename_i late
      split at decided
      · exact .inr ⟨not_lt.mp late, ‹_›, decided⟩
      · split at decided
        · obtain rfl := Except.ok.inj decided
          exact .inl ⟨by simp, ⟨rfl, rfl⟩, .inl rfl, by simp⟩
        · split at decided
          · split at decided
            · cases decided
            · obtain rfl := Except.ok.inj decided
              exact .inl ⟨by simp, ⟨rfl, rfl⟩, .inr rfl, by simp⟩
          · obtain rfl := Except.ok.inj decided
            exact .inl waits_noOp

/-- The grace deadline: it qualifies for the recheck, or it faults. -/
theorem soakingGrace_cases {session : SessionContext}
    (decided : soakingGrace inp session = .ok decision) :
    (postQualifies inp = true ∧ soakingRecheck inp session = .ok decision) ∨
      ∃ row fault, decision = finalizeSoakingFault session row .sensorFault fault ∧
        (row = "T29" ∨ row = "T30" ∨ row = "T31") := by
  unfold soakingGrace at decided
  split at decided
  · exact .inl ⟨‹_›, decided⟩
  · split at decided
    · cases decided
    · split at decided
      · exact .inr ⟨_, _, (Except.ok.inj decided).symm, .inl rfl⟩
      · split at decided
        · exact .inr ⟨_, _, (Except.ok.inj decided).symm, .inr (.inl rfl)⟩
        · exact .inr ⟨_, _, (Except.ok.inj decided).symm, .inr (.inr rfl)⟩

/-- In SOAKING every way to the next pulse goes through the recheck. -/
theorem soaking_start {session : SessionContext} (state : inp.state = .soaking)
    (held : inp.session = some session) (allowed : mayStart inp.event = true)
    (starts : turnOn ∈ decision.actions) (decided : decide inp = .ok decision) :
    PulseStart inp decision := by
  by_cases committed : session.pendingTerminationReason.isSome = true
  · cases event : inp.event <;> simp only [event, mayStart, Bool.false_eq_true] at allowed <;>
      simp only [decide, event, state, decideSoaking, held, if_pos committed] at decided <;>
      (obtain rfl := Except.ok.inj decided; simp [noOp] at starts)
  · have uncommitted : session.pendingTerminationReason = none := by simpa using committed
    have rechecks : postQualifies inp = true → soakingRecheck inp session = .ok decision →
        PulseStart inp decision := fun qualifies rechecked =>
      soakingRecheck_start state held uncommitted qualifies starts rechecked
    cases event : inp.event <;> simp only [event, mayStart, Bool.false_eq_true] at allowed <;>
      simp only [decide, event, state, decideSoaking, held, if_neg committed] at decided
    case moistureReport observation =>
      obtain ⟨-, -, waits | ⟨-, ⟨-, rfl⟩ | ⟨-, rfl⟩ | ⟨qualifies, rechecked⟩⟩⟩ :=
        soakingMoisture_cases decided
      · exact absurd starts waits.silent
      · simp [finalizeSoakingFault] at starts
      · simp [finalizeSoakingFault] at starts
      · exact rechecks qualifies rechecked
    case autoEvaluate | soakDeadlineReached | slotGranted =>
      obtain ⟨-, -, waits | ⟨-, qualifies, rechecked⟩⟩ := soakingDeadlineOrEvaluate_cases decided
      · exact absurd starts waits.silent
      · exact rechecks qualifies rechecked
    case graceDeadlineReached =>
      obtain ⟨qualifies, rechecked⟩ | ⟨row, fault, rfl, -⟩ := soakingGrace_cases decided
      · exact rechecks qualifies rechecked
      · simp [finalizeSoakingFault] at starts
    case manualStartRequested =>
      obtain rfl := Except.ok.inj decided
      simp at starts

/-- Only an automatic start, a recheck and a manual start request ON. -/
theorem decide_start (decided : decide inp = .ok decision) (starts : turnOn ∈ decision.actions) :
    PulseStart inp decision := by
  -- Few events can start a pulse at all.
  have allowed : mayStart inp.event = true := by
    cases decide_effect decided with
    | starts _ _ _ _ _ allowed => exact allowed.1
    | clears _ _ _ silent => exact absurd starts silent
    | updates _ _ _ _ _ _ _ silent => exact absurd starts silent
    | keeps _ _ silent => exact absurd starts silent
  cases state : inp.state with
  | idle =>
    cases event : inp.event <;> simp only [event, mayStart, Bool.false_eq_true] at allowed <;>
      simp only [decide, event, state, decideIdle] at decided
    case autoEvaluate | moistureReport | slotGranted =>
      exact evaluateAutoStart_start state starts decided
    case manualStartRequested => exact manualStart_start (.inl ⟨state, rfl⟩) starts decided
    all_goals
      obtain rfl := Except.ok.inj decided
      simp [noOp] at starts
  | fault =>
    cases event : inp.event <;> simp only [event, mayStart, Bool.false_eq_true] at allowed <;>
      simp only [decide, event, state, decideFault] at decided
    case manualStartRequested => exact manualStart_start (.inr ⟨state, rfl⟩) starts decided
    case moistureReport =>
      obtain rfl := Except.ok.inj decided
      unfold faultAutoClearCheck at starts
      split at starts
      · simp [noOp] at starts
      · split at starts
        · simp [noOp] at starts
        · split at starts <;> simp [noOp] at starts
    all_goals
      obtain rfl := Except.ok.inj decided
      simp [noOp] at starts
  | disabled =>
    cases event : inp.event <;> simp only [event, mayStart, Bool.false_eq_true] at allowed <;>
      simp only [decide, event, state, decideDisabled] at decided <;>
      (obtain rfl := Except.ok.inj decided; simp [noOp] at starts)
  | watering =>
    -- Nothing that may start a pulse does so while one is flowing.
    cases held : inp.session with
    | none =>
      cases event : inp.event <;> simp only [event, mayStart, Bool.false_eq_true] at allowed <;>
        simp [decide, event, state, decideWatering, held] at decided
    | some session =>
      cases event : inp.event <;> simp only [event, mayStart, Bool.false_eq_true] at allowed <;>
        simp only [decide, event, state, decideWatering, held] at decided
      case moistureReport observation =>
        simp only [wateringMoisture] at decided
        repeat'
          split at decided
        all_goals
          first
          | (obtain rfl := Except.ok.inj decided
             simp [noOp, commitTermination] at starts)
          | cases decided
      all_goals
        obtain rfl := Except.ok.inj decided
        simp [noOp] at starts
  -- A soak goes on with its next pulse.
  | soaking =>
    cases held : inp.session with
    | none =>
      cases event : inp.event <;> simp only [event, mayStart, Bool.false_eq_true] at allowed <;>
        simp [decide, event, state, decideSoaking, held] at decided
    | some session => exact soaking_start state held allowed starts decided

end MoistureLoop.StateMachine
