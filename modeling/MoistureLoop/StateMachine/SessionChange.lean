import MoistureLoop.StateMachine.Starts
import MoistureLoop.StateMachine.SessionOrder

/-! # How a decision changes the session

A decision starts a pulse, updates the session of the zone in one of nine ways, ends it, or
leaves it.  Invariants about the content of a session are proved by cases on the nine
updates and on how the session ended. -/

open MoistureLoop.Action

namespace MoistureLoop.StateMachine

/-- `SessionChange inp decision before after`: the ways a decision updates the session that
it neither starts nor ends. -/
inductive SessionChange (inp : TransitionInput) (decision : Decision) (before : SessionContext) :
    SessionContext → Prop where
  | confirmed {atUtc ends : Instant} : inp.state = .watering → inp.event = .onConfirmed atUtc →
      onConfirmedRow inp before atUtc = .ok decision → decision.newState = none →
      SessionChange inp decision before
        { before with pulseConfirmedAtUtc := some atUtc, pulseEndsAtUtc := some ends }
  | committed {reason : CompletionReason} {fault : Option FaultCode} {defensive : Bool} :
      inp.state = .watering → before.pendingTerminationReason = none →
      Trigger inp before reason fault defensive → decision.newState = none →
      SessionChange inp decision before { before with pendingTerminationReason := some reason }
  | refreshed {freshUntil : Instant} : inp.state = .watering → before.mode = .auto →
      before.pendingTerminationReason = none → decision.newState = some .watering →
      SessionChange inp decision before
        { before with
          sensorFreshUntilUtc := some freshUntil
          sensorFreshnessWatchdogGeneration := before.sensorFreshnessWatchdogGeneration + 1 }
  | recovering {finding : ActuatorFinding} {estimation : RuntimeEstimationReason} :
      inp.state = .watering → inp.event = .startupPersistedWatering finding →
      decision.newState = none → SessionChange inp decision before (recovered before estimation)
  | soaked {offAt : Instant} : inp.state = .watering → before.mode = .auto →
      before.pendingTerminationReason = none → inp.event = .offConfirmed offAt →
      decision.newState = some .soaking →
      SessionChange inp decision before
        { closeRuntime before offAt .targetReached with
          soakEndsAtUtc := some (offAt + inp.config.soakDurationS)
          recheckNotBeforeUtc := some (offAt + inp.config.soakDurationS)
          recheckGraceDeadlineAtUtc :=
            some (offAt + inp.config.soakDurationS + inp.config.sensorMaxAgeS) }
  | unproven {reason : CompletionReason} : inp.state = .watering ∨ inp.state = .soaking →
      inp.event = .offNotConfirmed → decision.newState = some .fault →
      SessionChange inp decision before
        { before with
          pendingTerminationReason := some reason
          runtimeEstimated := true
          runtimeEstimationReason := .offUnconfirmed }
  | rechecked {value : Moisture} : inp.state = .soaking → before.pendingTerminationReason = none →
      postQualifies inp = true → decision.newState = none →
      SessionChange inp decision before { before with lastRecheckValue := some value }
  | interfered : inp.state = .soaking → before.pendingTerminationReason = none →
      inp.event = .externalActuatorOn → decision.newState = none →
      SessionChange inp decision before
        { before with
          pendingTerminationReason := some .externalActuatorStateChange
          lastRecheckValue := none }
  | adopted {runId : String} {unsafeFault : Option FaultCode} : inp.state = .soaking →
      before.pendingTerminationReason = none →
      inp.event = .startupPersistedSoaking true (some runId) unsafeFault →
      decision.newState = some .soaking →
      SessionChange inp decision before { before with ownerRunId := runId }

/-- `SessionEnd inp before final`: how a session ends, with the session that is summarized. -/
inductive SessionEnd (inp : TransitionInput) (before : SessionContext) : SessionContext → Prop where
  | finalized {reason : CompletionReason} {offAt : Instant} {extraActions : List Action} :
      inp.state = .watering → Evidence inp before reason offAt extraActions →
      SessionEnd inp before (closeRuntime before offAt reason)
  | recoveredOff : inp.state = .watering → inp.event = .startupPersistedWatering .off →
      SessionEnd inp before
        (closeRuntime (recovered before .restartFoundOffUnknownStop) inp.nowUtc .restartRecovery)
  | delayed {reason : CompletionReason} {offAt : Instant} :
      inp.state = .disabled ∨ inp.state = .fault →
      inp.event = .externalActuatorOff offAt ∨ inp.event = .offConfirmed offAt →
      before.pendingTerminationReason = some reason →
      SessionEnd inp before (closeRuntime before offAt reason)
  | interfered {offAt : Instant} : inp.state = .soaking →
      before.pendingTerminationReason.isSome = true →
      inp.event = .externalActuatorOff offAt ∨ inp.event = .offConfirmed offAt →
      SessionEnd inp before (closeRuntime before offAt .externalActuatorStateChange)
  | soaked (recheck : Option Moisture) : inp.state = .soaking →
      before.pendingTerminationReason = none →
      SessionEnd inp before { before with lastRecheckValue := recheck }

/-- The state in which a decision that neither starts nor changes a session leaves it. -/
def StaysOrRests (inp : TransitionInput) (decision : Decision) : Prop :=
  decision.newState.getD inp.state = inp.state ∨
    (decision.newState.getD inp.state ≠ .watering ∧ decision.newState.getD inp.state ≠ .soaking)

inductive SessionOutcome (inp : TransitionInput) (decision : Decision) : Prop where
  | starts : PulseStart inp decision → SessionOutcome inp decision
  | changes {before after : SessionContext} : inp.session = some before →
      decision.session = some after → decision.clearSession = false →
      decision.finalSession = none → turnOn ∉ decision.actions →
      SessionChange inp decision before after → SessionOutcome inp decision
  | ends {before final : SessionContext} : inp.session = some before →
      decision.session = none → decision.clearSession = true →
      decision.finalSession = some final → turnOn ∉ decision.actions →
      StaysOrRests inp decision → SessionEnd inp before final → SessionOutcome inp decision
  | keeps : decision.session = none → decision.clearSession = false →
      decision.finalSession = none → turnOn ∉ decision.actions → StaysOrRests inp decision →
      SessionOutcome inp decision

variable {inp : TransitionInput} {decision : Decision}

theorem finalizeWatering_final {session : SessionContext} {reason : CompletionReason}
    {offAt : Instant} {extraActions : List Action}
    (decided : finalizeWatering inp session reason offAt extraActions = .ok decision) :
    decision.finalSession = some (closeRuntime session offAt reason) ∧ decision.session = none ∧
      StaysOrRests inp decision := by
  simp only [finalizeWatering] at decided
  split at decided
  · obtain rfl := Except.ok.inj decided
    refine ⟨rfl, rfl, .inr ?_⟩
    unfold finalizeManualComplete
    cases inp.enabled <;> cases (closeRuntime session offAt reason).retainedSensorFault with
    | none => simp
    | some retained => by_cases fresh : freshValid inp = true <;> simp [fresh]
  · split at decided
    · cases decided
    · obtain rfl := Except.ok.inj decided
      exact ⟨rfl, rfl, .inr (by
        simpa using postDestination_rests inp (closeRuntime session offAt reason) reason)⟩

theorem decide_outcome (decided : decide inp = .ok decision) : SessionOutcome inp decision := by
  by_cases starts : turnOn ∈ decision.actions
  · exact .starts (decide_start decided starts)
  cases decide_row decided with
  | integrityLost => exact .keeps rfl rfl rfl starts (.inr (by simp [integrityLost]))
  | configurationInvalid =>
    exact .keeps rfl rfl rfl starts (.inr (by simp [configurationInvalidRow]))
  | passive state _ _ _ _ session cleared final =>
    refine .keeps session cleared final starts (.inl ?_)
    rcases state with same | same <;> simp [same]
  | slotWait => exact .keeps rfl rfl rfl starts (.inl rfl)
  | declined _ state =>
    refine .keeps rfl rfl rfl starts (.inl ?_)
    rcases state with ⟨idle, rfl⟩ | ⟨-, rfl⟩
    · simp [idle]
    · rfl
  -- A decision that requests no ON starts nothing.
  | autoStart _ _ _ _ _ _ started =>
    obtain ⟨_, _, -, -, -, started⟩ := startAutoPulse_first started
    exact absurd (by simp [started.actions, autoStartActions]) starts
  | nextPulse _ _ _ _ _ _ _ _ started =>
    obtain ⟨_, -, -, started⟩ := startAutoPulse_next started
    exact absurd (by simp [started.actions, autoStartActions]) starts
  | manualStart _ _ _ _ started session =>
    obtain ⟨_, -, -, started⟩ := manualStart_started started session
    exact absurd (by simp [started.actions, manualStartActions]) starts
  | disable => exact .keeps rfl rfl rfl starts (.inr (by simp))
  | externalOn _ _ _ state | externalOff _ _ _ state =>
    refine .keeps rfl rfl rfl starts (.inl ?_)
    rcases state with rfl | rfl <;> rfl
  | enableFault => exact .keeps rfl rfl rfl starts (.inr (by simp))
  | enableIdle => exact .keeps rfl rfl rfl starts (.inr (by simp))
  -- OFF evidence after the fault of a committed termination.
  | closeAccounting evidence state closed =>
    unfold closeOpenAccounting at closed
    split at closed
    · cases closed
    · rename_i session held
      split at closed
      · cases closed
      · rename_i reason committed
        obtain rfl := Except.ok.inj closed
        exact .ends held rfl rfl rfl starts (.inl rfl) (.delayed state evidence committed)
  | onConfirmed state held event confirmed =>
    have whole := confirmed
    unfold onConfirmedRow at confirmed
    split at confirmed
    · cases confirmed
    · obtain rfl := Except.ok.inj confirmed
      exact .changes held rfl rfl rfl starts (.confirmed state event whole rfl)
  | commit state held uncommitted trigger =>
    exact .changes held rfl rfl rfl starts (.committed state uncommitted trigger rfl)
  | pulseEnd => exact .keeps rfl rfl rfl starts (.inl rfl)
  | refresh state held auto uncommitted =>
    exact .changes held rfl rfl rfl starts (.refreshed state auto uncommitted rfl)
  | finalize state held evidence finalized =>
    obtain ⟨final, session, rests⟩ := finalizeWatering_final finalized
    exact .ends held session (finalizeWatering_closes finalized).2.1 final starts rests
      (.finalized state evidence)
  | recoveredOff state held event finalized =>
    obtain ⟨final, session, rests⟩ := finalizeWatering_final finalized
    exact .ends held session (finalizeWatering_closes finalized).2.1 final starts rests
      (.recoveredOff state event)
  | recoveryCommit state held event =>
    exact .changes held rfl rfl rfl starts (.recovering state event rfl)
  | pulseOff state held uncommitted auto event =>
    exact .changes held rfl rfl rfl starts (.soaked state auto uncommitted event rfl)
  | offNotConfirmed state held event =>
    exact .changes held rfl rfl rfl starts (.unproven (.inl state) event rfl)
  | soakExternal state held committed event =>
    refine .ends held rfl rfl rfl starts (.inr ?_) (.interfered state committed event)
    simp only [finalizeSoakingExternal, Option.getD_some]
    exact ite_rests _
  | soakOffNotConfirmed state held _ event =>
    exact .changes held rfl rfl rfl starts (.unproven (.inr state) event rfl)
  | soakCompletion state held uncommitted =>
    refine .ends held rfl rfl rfl starts (.inr ?_) (.soaked _ state uncommitted)
    simp only [finalizeSoakingCompletion, Option.getD_some]
    exact ite_rests _
  | soakFault recheck state held uncommitted =>
    exact .ends held rfl rfl rfl starts (.inr (by simp [finalizeSoakingFault]))
      (.soaked recheck state uncommitted)
  | soakSlotWait state held uncommitted qualifies =>
    exact .changes held rfl rfl rfl starts (.rechecked state uncommitted qualifies rfl)
  | soakInterference state held uncommitted event =>
    exact .changes held rfl rfl rfl starts (.interfered state uncommitted event rfl)
  | @soakCancel session row reason destination state held uncommitted kind =>
    refine .ends held rfl rfl rfl starts (.inr ?_)
      (.soaked session.lastRecheckValue state uncommitted)
    rcases kind with ⟨-, rfl, -⟩ | ⟨rfl, -⟩ <;> simp [finalizeSoakingCancel]
  | soakPreserved state => exact .keeps rfl rfl rfl starts (.inl (by simp [state]))
  -- T50 in a run that is trusted, T51 otherwise.
  | soakAdopted state held uncommitted event adopted =>
    simp only [startupPersistedSoakingRow, if_true] at adopted
    split at adopted
    · cases adopted
    · cases adopted
    · cases adopted
    · obtain rfl := Except.ok.inj adopted
      exact .changes held rfl rfl rfl starts (.adopted state uncommitted event rfl)
  | @soakTerminated decision session runId unsafeFault state held uncommitted _ terminated =>
    simp only [startupPersistedSoakingRow, Bool.false_eq_true, if_false, Except.ok.injEq] at terminated
    subst terminated
    cases unsafeFault with
    | none =>
      refine .ends held rfl rfl rfl starts (.inr ?_)
        (.soaked session.lastRecheckValue state uncommitted)
      simp only [Option.getD_some]
      exact ite_rests _
    | some fault =>
      exact .ends held rfl rfl rfl starts (.inr (by simp))
        (.soaked session.lastRecheckValue state uncommitted)
  | faultCleared => exact .keeps rfl rfl rfl starts (.inr (by simp))

end StateMachine

/-! ## A rule for what holds of the session of a zone -/

def ZoneLabel.input : ZoneLabel → Option TransitionInput
  | .decide input | .setEnabled _ input | .compensate input => some input
  | .commanded _ _ | .writeFailed => none

/-- The inputs on which the steps of a run decide are all allowed. -/
def Zone.Decides (allowed : TransitionInput → Prop) (_ : Zone) (label : ZoneLabel) (_ : Zone) :
    Prop :=
  ∀ input, label.input = some input → allowed input

/-- What holds of the session a zone is in, in its state: the pieces of which the steps of a
zone are made keep it. -/
structure SessionRule (allowed : TransitionInput → Prop)
    (property : ControllerState → SessionContext → Prop) : Prop where
  starts : ∀ {inp : TransitionInput} {decision : Decision} {session : SessionContext},
    allowed inp → StateMachine.decide inp = .ok decision →
    (∀ before, inp.session = some before → property inp.state before) →
    StateMachine.PulseStart inp decision → decision.session = some session →
    property .watering session
  changes : ∀ {inp : TransitionInput} {decision : Decision} {before after : SessionContext},
    allowed inp → property inp.state before →
    StateMachine.SessionChange inp decision before after →
    property (decision.newState.getD inp.state) after
  rests : ∀ {state state' : ControllerState} {session : SessionContext}, property state session →
    state' ≠ .watering → state' ≠ .soaking → property state' session
  estimated : ∀ {state : ControllerState} {session : SessionContext}, property state session →
    property state { session with
      runtimeEstimated := true
      runtimeEstimationReason := .offUnconfirmed }
  commanded : ∀ {state : ControllerState} {session : SessionContext} (atUtc : Instant),
    property state session → session.pulseCommandedAtUtc = none →
    property state { session with pulseCommandedAtUtc := some atUtc }
  failed : ∀ {state : ControllerState} {session : SessionContext}, property state session →
    property .fault { session with
      pendingTerminationReason := session.pendingTerminationReason.or (some .actuatorFault) }

namespace Zone

variable {zone next start finish : Zone} {label : ZoneLabel} {input : TransitionInput}
  {decision : Decision} {allowed : TransitionInput → Prop}
  {property : ControllerState → SessionContext → Prop}

/-- The property holds of the session the zone is in, if it is in one. -/
def Holds (property : ControllerState → SessionContext → Prop) (zone : Zone) : Prop :=
  ∀ session, zone.session = some session → property zone.state session

theorem StaysOrRests.holds (rule : SessionRule allowed property) (holds : zone.Holds property)
    (feeds : zone.Feeds input) (rests : StateMachine.StaysOrRests input decision)
    {session : SessionContext} (held : zone.session = some session) :
    property (decision.newState.getD zone.state) session := by
  obtain ⟨state, -⟩ := feeds
  rw [StateMachine.StaysOrRests, state] at rests
  rcases rests with same | ⟨away, away'⟩
  · rw [same]
    exact holds session held
  · exact rule.rests (holds session held) away away'

/-- What a decision leaves in a zone: a started or changed session, or the one it had. -/
theorem holds_decided (rule : SessionRule allowed property) (holds : zone.Holds property)
    (feeds : zone.Feeds input) (permitted : allowed input)
    (decided : StateMachine.decide input = .ok decision) {session : SessionContext}
    (left : decision.session.or zone.session = some session)
    (open' : decision.session = none → zone.session = some session) :
    property (decision.newState.getD zone.state) session := by
  have whole := feeds
  obtain ⟨state, -, same, -⟩ := feeds
  have before : ∀ before, input.session = some before → property input.state before := by
    rw [state, same]
    exact holds
  cases StateMachine.decide_outcome decided with
  | starts start =>
    have started : decision.session = some session ∧ decision.newState = some .watering := by
      cases start with
      | first _ _ _ _ _ _ _ _ started | next _ _ _ _ _ _ _ _ _ _ started
      | manual _ _ _ _ _ _ started =>
        rw [started.session] at left ⊢
        exact ⟨by simpa using left, started.newState⟩
    rw [started.2]
    exact rule.starts permitted decided before start started.1
  | changes held changed _ _ _ change =>
    rw [changed, Option.some_or] at left
    obtain rfl := Option.some.inj left
    have kept := rule.changes permitted (before _ held) change
    rwa [state] at kept
  | ends _ none' _ _ _ rests => exact StaysOrRests.holds rule holds whole rests (open' none')
  | keeps none' _ _ _ rests => exact StaysOrRests.holds rule holds whole rests (open' none')

theorem Holds.adopt (rule : SessionRule allowed property) (holds : zone.Holds property)
    (feeds : zone.Feeds input) (permitted : allowed input)
    (decided : StateMachine.decide input = .ok decision) :
    (zone.adopt decision).Holds property := by
  intro session left
  simp only [Zone.adopt] at left ⊢
  split at left
  · cases left
  · exact holds_decided rule holds feeds permitted decided left fun none' => by
      simpa [none'] using left

theorem Holds.commit (rule : SessionRule allowed property) (holds : zone.Holds property)
    (feeds : zone.Feeds input) (permitted : allowed input)
    (decided : StateMachine.decide input = .ok decision) :
    (zone.commit decision).Holds property := by
  intro session left
  simp only [Zone.commit] at left ⊢
  exact holds_decided rule holds feeds permitted decided left fun none' => by
    simpa [none'] using left

theorem Holds.markEstimated (rule : SessionRule allowed property) (holds : zone.Holds property) :
    zone.markEstimated.Holds property := by
  intro session left
  obtain ⟨before, held, rfl⟩ := Option.map_eq_some_iff.mp left
  split
  · exact holds before held
  · exact rule.estimated (holds before held)

theorem Holds.recordCommand (rule : SessionRule allowed property) (holds : zone.Holds property)
    (sessionId : String) (atUtc : Instant) :
    (zone.recordCommand sessionId atUtc).Holds property := by
  intro session left
  obtain ⟨before, held, rfl⟩ := Option.map_eq_some_iff.mp left
  split
  · cases commanded : before.pulseCommandedAtUtc with
    | none =>
      rw [Option.none_or]
      exact rule.commanded atUtc (holds before held) commanded
    | some at' =>
      have same : { before with pulseCommandedAtUtc := some at' } = before := by
        rw [← commanded]
      rw [Option.some_or, same]
      exact holds before held
  · exact holds before held

theorem Holds.step (rule : SessionRule allowed property) (holds : zone.Holds property)
    (stepped : zone.step label = some next) (permitted : Decides allowed zone label next) :
    next.Holds property := by
  cases step_move stepped with
  | adopts feeds _ decided => exact holds.adopt rule feeds (permitted _ rfl) decided
  | ignores => exact holds
  | @toggles enabled input feeds _ =>
    have toggled : ({ zone with enabled := enabled } : Zone).Holds property := holds
    rcases ({ zone with enabled := enabled } : Zone).decideWith_cases input Zone.adopt with
      same | ⟨decision, decided, same⟩
    · rw [same]
      exact toggled
    · rw [same]
      exact toggled.adopt rule feeds (permitted _ rfl) decided
  | commits _ feeds _ decided =>
    exact (holds.markEstimated rule).commit rule feeds (permitted _ rfl) decided
  | marks => exact holds.markEstimated rule
  | commands => exact holds.recordCommand rule _ _
  | fails =>
    intro session left
    obtain ⟨before, held, rfl⟩ := Option.map_eq_some_iff.mp left
    exact rule.failed (holds before held)

/-- In a run whose decisions are all allowed, what the rule keeps holds throughout. -/
theorem Holds.of_run (rule : SessionRule allowed property)
    (reached : system.Run (Decides allowed) start finish) (holds : start.Holds property) :
    finish.Holds property :=
  reached.preserves holds fun _ _ _ held stepped permitted => held.step rule stepped permitted

end Zone

end MoistureLoop
