import MoistureLoop.StateMachine.SessionChange

/-! # What stops a flowing pulse

A pulse flows while the zone is WATERING and no termination of its session is committed.
Each such session names the one timer that is to end it.  A decision that leaves a flowing
pulse has started it, confirmed it, or kept the timer it had. -/

open MoistureLoop.Action

namespace MoistureLoop

/-- `_TIMER_EVENTS`: the event that a fired timer dispatches. -/
def TimerKind.event : TimerKind → ControllerEvent
  | .pulseEnd => .pulseDeadlineReached
  | .manualEnd => .manualDeadlineReached
  | .soakEnd => .soakDeadlineReached
  | .grace => .graceDeadlineReached
  | .onConfirmTimeout => .onConfirmTimeout

def TimerKind.watchesPulse : TimerKind → Bool
  | .pulseEnd | .manualEnd | .onConfirmTimeout => true
  | .soakEnd | .grace => false

/-- The timer that is to end the pulse: the confirmation timeout from its intent, then the
end of the pulse from its confirmation. -/
def SessionContext.stop (session : SessionContext) (config : ZoneConfig) :
    Option (TimerKind × Instant) :=
  match session.pulseConfirmedAtUtc with
  | none => session.pulseIntentAtUtc.map fun intent =>
      (.onConfirmTimeout, intent + config.actuatorConfirmTimeoutS)
  | some confirmed =>
    match session.mode with
    | .auto => some (.pulseEnd, confirmed + config.pulseDurationS)
    | .manual => session.manualEffectiveDurationS.map fun effective =>
        (.manualEnd, confirmed + effective)

theorem SessionContext.stop_watchesPulse {session : SessionContext} {config : ZoneConfig}
    {timer : TimerKind × Instant} (stop : session.stop config = some timer) :
    timer.1.watchesPulse = true := by
  unfold SessionContext.stop at stop
  split at stop
  · obtain ⟨_, -, rfl⟩ := Option.map_eq_some_iff.mp stop
    rfl
  · split at stop
    · obtain rfl := Option.some.inj stop
      rfl
    · obtain ⟨_, -, rfl⟩ := Option.map_eq_some_iff.mp stop
      rfl

/-- A confirmed pulse is no longer stopped by the confirmation timeout. -/
theorem SessionContext.stop_of_confirmed {session : SessionContext} {config : ZoneConfig}
    {timer : TimerKind × Instant} (stop : session.stop config = some timer)
    (confirmed : session.pulseConfirmedAtUtc.isSome = true) : timer.1 ≠ .onConfirmTimeout := by
  unfold SessionContext.stop at stop
  split at stop
  · rename_i unconfirmed
    simp [unconfirmed] at confirmed
  · split at stop
    · obtain rfl := Option.some.inj stop
      simp
    · obtain ⟨_, -, rfl⟩ := Option.map_eq_some_iff.mp stop
      simp

/-- `pulse` flows: the zone is WATERING and no termination of its session is committed. -/
structure Flowing (state : ControllerState) (session : Option SessionContext)
    (pulse : SessionContext) : Prop where
  watering : state = .watering
  held : session = some pulse
  uncommitted : pulse.pendingTerminationReason = none

def Decision.leaves (decision : Decision) (session : Option SessionContext) :
    Option SessionContext :=
  if decision.clearSession then none else decision.session.or session

/-- The actions that the start and the confirmation of a pulse need in their order. -/
def Action.movesPulse : Action → Bool
  | turnOn => true
  | armTimer kind _ => kind.watchesPulse
  | _ => false

/-- The events after which a flowing pulse has a committed termination or has left WATERING:
the outcome of an OFF operation, a cancellation by quiescing, and a restart. -/
def ControllerEvent.settlesPulse : ControllerEvent → Bool
  | .offConfirmed _ | .offNotConfirmed | .configChangedPrepare | .homeAssistantShutdown
  | .startupPersistedWatering _ => true
  | _ => false

namespace StateMachine

variable {inp : TransitionInput} {decision : Decision} {pulse after : SessionContext}

/-! ## Manual durations -/

/-- The effective duration respects the request and every cap. -/
theorem clampManual_le (inp : TransitionInput) (requested : Seconds) :
    (clampManual inp requested).1 ≤ requested ∧
      (clampManual inp requested).1 ≤ inp.config.manualMaxDurationS ∧
      (clampManual inp requested).1 ≤ inp.config.maxSessionRuntimeS ∧
      (clampManual inp requested).1 ≤ dailyRemaining inp := by
  simp only [clampManual, manualCaps, List.map_cons, List.map_nil, List.foldl_cons, List.foldl_nil]
  refine ⟨?_, ?_, ?_, min_le_right _ _⟩
  · exact (min_le_left _ _).trans ((min_le_left _ _).trans (min_le_left _ _))
  · exact (min_le_left _ _).trans ((min_le_left _ _).trans (min_le_right _ _))
  · exact (min_le_left _ _).trans (min_le_right _ _)

/-- A manual session that a decision starts respects the request and every cap. -/
theorem decide_manualClamped {session : SessionContext} (decided : decide inp = .ok decision)
    (started : decision.session = some session) (manual : session.mode = .manual)
    (fresh : inp.session = none) :
    ∃ requested effective, session.manualRequestedDurationS = some requested ∧
      session.manualEffectiveDurationS = some effective ∧ effective ≤ requested ∧
      effective ≤ inp.config.manualMaxDurationS ∧ effective ≤ inp.config.maxSessionRuntimeS ∧
      effective ≤ dailyRemaining inp := by
  cases decide_outcome decided with
  | starts start =>
    cases start with
    | first reportedAt identity _ _ _ _ _ _ auto =>
      obtain rfl := Option.some.inj (auto.session.symm.trans started)
      cases manual
    | next before _ _ _ held =>
      rw [fresh] at held
      cases held
    | manual requested row identity _ _ _ starts =>
      obtain rfl := Option.some.inj (starts.session.symm.trans started)
      exact ⟨requested, _, rfl, rfl, clampManual_le inp requested⟩
  | changes held | ends held =>
    rw [fresh] at held
    cases held
  | keeps none' =>
    rw [none'] at started
    cases started

/-! ## What leaves a pulse flowing -/

/-- `FlowStep inp decision after`: how a decision leaves the pulse `after` flowing. -/
inductive FlowStep (inp : TransitionInput) (decision : Decision) (after : SessionContext) :
    Prop where
  | starts {timer : TimerKind × Instant} : mayStart inp.event = true →
      after.stop inp.config = some timer →
      decision.actions.filter movesPulse = [turnOn, armTimer timer.1 timer.2] →
      FlowStep inp decision after
  | confirms {before : SessionContext} {timer : TimerKind × Instant} {atUtc : Instant} :
      Flowing inp.state inp.session before → inp.event = .onConfirmed atUtc →
      after.stop inp.config = some timer →
      decision.actions.filter movesPulse = [armTimer timer.1 timer.2] →
      FlowStep inp decision after
  | keeps {before : SessionContext} : Flowing inp.state inp.session before →
      after.stop inp.config = before.stop inp.config →
      decision.actions.filter movesPulse = [] → FlowStep inp decision after

theorem startsWith_flowStep {session : SessionContext} {actions : List Action}
    (started : StartsWith decision session actions) (may : mayStart inp.event = true)
    (intent : session.pulseIntentAtUtc = some inp.nowUtc)
    (unconfirmed : session.pulseConfirmedAtUtc = none)
    (moves : actions.filter movesPulse =
      [turnOn, armTimer .onConfirmTimeout (inp.nowUtc + inp.config.actuatorConfirmTimeoutS)]) :
    FlowStep inp decision session := by
  have stop : session.stop inp.config =
      some (.onConfirmTimeout, inp.nowUtc + inp.config.actuatorConfirmTimeoutS) := by
    simp [SessionContext.stop, unconfirmed, intent]
  exact .starts may stop (started.actions ▸ moves)

theorem pulseStart_flowStep (decided : decide inp = .ok decision)
    (start : PulseStart inp decision) (left : decision.leaves inp.session = some after) :
    FlowStep inp decision after := by
  have may : mayStart inp.event = true := by
    cases decide_effect decided with
    | starts _ _ _ _ _ allowed => exact allowed.1
    | clears _ _ _ silent | updates _ _ _ _ _ _ _ silent | keeps _ _ silent =>
      exact absurd (turnOn_of_pulseStart start) silent
  have starts : ∀ {session : SessionContext} {actions : List Action},
      StartsWith decision session actions → session = after := by
    intro session actions started
    simpa [Decision.leaves, started.unclosed.1, started.session] using left
  cases start with
  | first reportedAt identity _ _ _ _ _ _ started =>
    obtain rfl := starts started
    exact startsWith_flowStep started may rfl rfl rfl
  | next session reportedAt value _ _ _ _ _ _ _ started =>
    obtain rfl := starts started
    exact startsWith_flowStep started may rfl rfl rfl
  | manual requested row identity _ _ _ started =>
    obtain rfl := starts started
    exact startsWith_flowStep started may rfl rfl rfl

@[simp] theorem commitTermination_moves (session : SessionContext) (reason : CompletionReason)
    (fault : Option FaultCode) (defensive : Bool) :
    (commitTermination session reason fault defensive).actions.filter movesPulse = [] := by
  cases fault <;> simp [commitTermination, movesPulse]

theorem finalizeWatering_moves {session : SessionContext} {reason : CompletionReason}
    {offAt : Instant} {extraActions : List Action} (extra : extraActions.filter movesPulse = [])
    (decided : finalizeWatering inp session reason offAt extraActions = .ok decision) :
    decision.actions.filter movesPulse = [] := by
  simp only [finalizeWatering] at decided
  split at decided
  · obtain rfl := Except.ok.inj decided
    unfold finalizeManualComplete
    cases (closeRuntime session offAt reason).retainedSensorFault with
    | none => simp [extra, movesPulse]
    | some retained => by_cases fresh : freshValid inp = true <;> simp [fresh, extra, movesPulse]
  · split at decided
    · cases decided
    · obtain rfl := Except.ok.inj decided
      have cleared := (postDestination_ne_watering inp (closeRuntime session offAt reason) reason).2
      simp only [List.filter_append, extra, List.nil_append, List.append_eq_nil_iff]
      refine ⟨rfl, List.filter_eq_nil_iff.mpr fun action member => ?_⟩
      obtain ⟨fault, rfl⟩ := cleared action member
      simp [movesPulse]

theorem wateringMoisture_moves {session : SessionContext} {observation : MoistureObservation}
    (decided : wateringMoisture inp session observation = .ok decision) :
    decision.actions.filter movesPulse = [] := by
  simp only [wateringMoisture] at decided
  repeat' split at decided
  all_goals
    first
    | (obtain rfl := Except.ok.inj decided
       simp [noOp, movesPulse])
    | cases decided

theorem watchdogFiredRow_moves {session : SessionContext} {token : WatchdogToken}
    (decided : watchdogFiredRow inp session token = .ok decision) :
    decision.actions.filter movesPulse = [] := by
  unfold watchdogFiredRow at decided
  repeat' split at decided
  all_goals
    first
    | (obtain rfl := Except.ok.inj decided
       simp [noOp, movesPulse])
    | cases decided

theorem startupPersistedWateringRow_moves {session : SessionContext} {finding : ActuatorFinding}
    (decided : startupPersistedWateringRow inp session finding = .ok decision) :
    decision.actions.filter movesPulse = [] := by
  unfold startupPersistedWateringRow at decided
  split at decided
  · exact finalizeWatering_moves rfl decided
  · obtain rfl := Except.ok.inj decided
    simp [movesPulse]

/-- The confirmation of a pulse arms its end, as long as no termination is committed. -/
theorem onConfirmedRow_moves {before : SessionContext} {atUtc : Instant}
    {session : Option SessionContext} (uncommitted : before.pendingTerminationReason = none)
    (decided : onConfirmedRow inp before atUtc = .ok decision)
    (left : decision.leaves session = some after) :
    ∃ timer, after.stop inp.config = some timer ∧
      decision.actions.filter movesPulse = [armTimer timer.1 timer.2] := by
  unfold onConfirmedRow at decided
  split at decided
  · cases decided
  · rename_i ends timer watched
    obtain rfl := Except.ok.inj decided
    obtain rfl := Option.some.inj left
    refine ⟨(timer, ends), ?_, ?_⟩
    · unfold pulseEnd at watched
      split at watched
      · rename_i auto
        simp only [Option.some.injEq, Prod.mk.injEq] at watched
        obtain ⟨rfl, rfl⟩ := watched
        simp [SessionContext.stop, auto]
      · rename_i manual
        obtain ⟨effective, given, same⟩ := Option.map_eq_some_iff.mp watched
        obtain ⟨rfl, rfl⟩ := Prod.mk.inj same
        simp [SessionContext.stop, manual, given]
    · have watches : timer.watchesPulse = true := by
        unfold pulseEnd at watched
        split at watched
        · simp only [Option.some.injEq, Prod.mk.injEq] at watched
          rw [← watched.2]
          rfl
        · obtain ⟨_, -, same⟩ := Option.map_eq_some_iff.mp watched
          rw [← (Prod.mk.inj same).2]
          rfl
      simp [uncommitted, movesPulse, watches]

theorem watering_moves (state : inp.state = .watering) (decided : decide inp = .ok decision) :
    decision.actions.filter movesPulse = [] ∨
      ∃ session atUtc, inp.session = some session ∧ inp.event = .onConfirmed atUtc ∧
        onConfirmedRow inp session atUtc = .ok decision := by
  have cleared : ∀ other : Decision, other.actions.filter movesPulse = [] →
      (.ok other : Except DecideError Decision) = .ok decision →
      decision.actions.filter movesPulse = [] := by
    rintro other none' same
    obtain rfl := Except.ok.inj same
    exact none'
  -- These two are decided before the state is looked at.
  by_cases lost : inp.event = .storeIntegrityLost ∨ inp.event = .configurationInvalid true
  · left
    rcases lost with event | event <;> simp only [decide, event] at decided
    · exact cleared _ rfl decided
    · exact cleared _ rfl decided
  cases held : inp.session with
  -- WATERING without a session raises, whatever the event.
  | none =>
    cases event : inp.event with
    | configurationInvalid atSetup =>
      cases atSetup <;> simp [decide, event, state, decideWatering, held] at decided lost
    | _ => simp [decide, event, state, decideWatering, held] at decided lost
  | some session =>
    cases event : inp.event with
    | onConfirmed atUtc =>
      simp only [decide, event, state, decideWatering, held] at decided
      exact .inr ⟨session, atUtc, rfl, rfl, decided⟩
    | moistureReport observation =>
      simp only [decide, event, state, decideWatering, held] at decided
      exact .inl (wateringMoisture_moves decided)
    | watchdogFired token =>
      simp only [decide, event, state, decideWatering, held] at decided
      exact .inl (watchdogFiredRow_moves decided)
    | startupPersistedWatering finding =>
      simp only [decide, event, state, decideWatering, held] at decided
      exact .inl (startupPersistedWateringRow_moves decided)
    -- OFF evidence finishes the session or lets it soak.
    | externalActuatorOff atUtc =>
      simp only [decide, event, state, decideWatering, held] at decided
      left
      split at decided
      · exact finalizeWatering_moves rfl decided
      · exact finalizeWatering_moves rfl decided
    | offConfirmed atUtc =>
      simp only [decide, event, state, decideWatering, held] at decided
      left
      split at decided
      · exact finalizeWatering_moves rfl decided
      · split at decided
        · exact cleared _ rfl decided
        · exact finalizeWatering_moves rfl decided
    | configurationInvalid atSetup =>
      cases atSetup with
      | true => exact absurd (.inr event) lost
      | false =>
        simp only [decide, event, state, decideWatering, held] at decided
        exact .inl (cleared _ rfl decided)
    | storeIntegrityLost => exact absurd (.inl event) lost
    | _ =>
      left
      simp only [decide, event, state, decideWatering, held] at decided
      first
      | exact cleared _ rfl decided
      | (split at decided
         · exact cleared _ rfl decided
         · exact cleared _ (commitTermination_moves _ _ _ _) decided)
      | (split at decided
         · exact cleared _ rfl decided
         · exact cleared _ rfl decided)

/-- A decision that leaves a pulse flowing has started it, confirmed it, or kept it. -/
theorem decide_flowStep (decided : decide inp = .ok decision)
    (flows : Flowing (decision.newState.getD inp.state) (decision.leaves inp.session) after) :
    FlowStep inp decision after := by
  by_cases starts : turnOn ∈ decision.actions
  · exact pulseStart_flowStep decided (decide_start decided starts) flows.held
  -- The pulse that goes on was flowing before.
  have kept : ∃ before, Flowing inp.state inp.session before ∧
      (after.stop inp.config = before.stop inp.config ∨
        ∃ atUtc, inp.event = .onConfirmed atUtc) := by
    have held := flows.held
    have watering := flows.watering
    have uncommitted := flows.uncommitted
    cases decide_outcome decided with
    | starts start => exact absurd (turnOn_of_pulseStart start) starts
    | ends _ _ cleared =>
      rw [Decision.leaves, if_pos cleared] at held
      cases held
    | keeps none' uncleared _ _ rests =>
      rw [Decision.leaves, if_neg (by simp [uncleared]), none', Option.none_or] at held
      rcases rests with same | ⟨away, -⟩
      · exact ⟨after, ⟨same ▸ watering, held, uncommitted⟩, .inl rfl⟩
      · exact absurd watering away
    | @changes before changed had left uncleared _ _ change =>
      rw [Decision.leaves, if_neg (by simp [uncleared]), left, Option.some_or] at held
      obtain rfl := Option.some.inj held
      cases change with
      | confirmed state event _ _ =>
        exact ⟨before, ⟨state, had, uncommitted⟩, .inr ⟨_, event⟩⟩
      | refreshed state _ open' _ => exact ⟨before, ⟨state, had, open'⟩, .inl rfl⟩
      | committed | recovering | interfered => cases uncommitted
      | soaked _ _ _ _ state | unproven _ _ state | adopted _ _ _ state =>
        rw [state] at watering
        cases watering
      | rechecked state _ _ state' =>
        rw [state', state] at watering
        cases watering
  obtain ⟨before, flowed, stop⟩ := kept
  by_cases confirms : ∃ atUtc, inp.event = .onConfirmed atUtc
  · obtain ⟨atUtc, event⟩ := confirms
    simp only [decide, event, flowed.watering, decideWatering, flowed.held] at decided
    obtain ⟨timer, stops, moves⟩ := onConfirmedRow_moves flowed.uncommitted decided flows.held
    exact .confirms flowed event stops moves
  · rcases watering_moves flowed.watering decided with none' | ⟨_, atUtc, -, event, -⟩
    · exact .keeps flowed (stop.resolve_right confirms) none'
    · exact absurd ⟨atUtc, event⟩ confirms

/-! ## What ends a flowing pulse -/

theorem decide_stopTimer {timer : TimerKind × Instant}
    (flows : Flowing inp.state inp.session pulse) (stop : pulse.stop inp.config = some timer)
    (event : inp.event = timer.1.event) :
    ∃ decision, decide inp = .ok decision ∧ decision.noOp = false ∧
      ∃ defensive, executeOff defensive ∈ decision.actions := by
  obtain ⟨state, held, uncommitted⟩ := flows
  unfold SessionContext.stop at stop
  split at stop
  · rename_i unconfirmed
    obtain ⟨_, -, rfl⟩ := Option.map_eq_some_iff.mp stop
    refine ⟨commitTermination pulse .actuatorFault (some .actuatorOnTimeout) true, ?_, rfl, true,
      ?_⟩
    · simp [decide, event, TimerKind.event, state, decideWatering, held, uncommitted, unconfirmed]
    · simp [commitTermination]
  · split at stop
    · rename_i auto
      obtain rfl := Option.some.inj stop
      refine ⟨{ actions := [executeOff false] }, ?_, rfl, false, by simp⟩
      simp [decide, event, TimerKind.event, state, decideWatering, held, uncommitted, auto]
    · rename_i manual
      obtain ⟨_, -, rfl⟩ := Option.map_eq_some_iff.mp stop
      refine ⟨commitTermination pulse .manualComplete, ?_, rfl, false, ?_⟩
      · simp [decide, event, TimerKind.event, state, decideWatering, held, uncommitted, manual]
      · simp [commitTermination]

/-- A decision that commits a termination, clears the session or leaves WATERING leaves no
pulse flowing. -/
theorem not_flowing_of_left
    (left : decision.clearSession = true ∨ decision.newState.any (· ≠ .watering) = true ∨
      ∃ session, decision.session = some session ∧
        session.pendingTerminationReason.isSome = true) (after : SessionContext) :
    ¬ Flowing (decision.newState.getD inp.state) (decision.leaves inp.session) after := by
  rintro ⟨watering, held, uncommitted⟩
  rcases left with cleared | away | ⟨session, set, committed⟩
  · rw [Decision.leaves, if_pos cleared] at held
    cases held
  · obtain ⟨state, moved, other⟩ := (Option.any_eq_true _ _).mp away
    rw [moved, Option.getD_some] at watering
    simp [watering] at other
  · unfold Decision.leaves at held
    split at held
    · cases held
    · rw [set, Option.some_or] at held
      obtain rfl := Option.some.inj held
      simp [uncommitted] at committed

/-- The recovery of a persisted pulse finalizes its session or commits the recovery. -/
theorem startupPersistedWateringRow_settles (inp : TransitionInput) (pulse : SessionContext)
    (finding : ActuatorFinding) :
    ∃ decision, startupPersistedWateringRow inp pulse finding = .ok decision ∧
      decision.noOp = false ∧
      (decision.clearSession = true ∨ decision.newState.any (· ≠ .watering) = true ∨
        ∃ session, decision.session = some session ∧
          session.pendingTerminationReason.isSome = true) := by
  by_cases off : finding = .off
  · subst off
    cases row : startupPersistedWateringRow inp pulse .off with
    | error err =>
      simp [startupPersistedWateringRow, finalizeWatering, finalizeRow] at row
    | ok decision =>
      obtain ⟨acts, cleared, -⟩ := finalizeWatering_closes
        (show finalizeWatering inp (recovered pulse .restartFoundOffUnknownStop) .restartRecovery
          inp.nowUtc = .ok decision from row)
      exact ⟨decision, rfl, acts, .inl cleared⟩
  · refine ⟨{ actions := [persistState "restart_recovery",
                addBlocker .integrationOffUnconfirmed, executeOff true]
              session := some (recovered pulse
                (if finding = .on then .restartFoundOn else .offUnconfirmed)) },
      ?_, rfl, .inr (.inr ⟨_, rfl, rfl⟩)⟩
    cases finding with
    | off => exact absurd rfl off
    | on | unproven => rfl

theorem decide_settles (flows : Flowing inp.state inp.session pulse)
    (settles : inp.event.settlesPulse = true) :
    ∃ decision, decide inp = .ok decision ∧ decision.noOp = false ∧ ∀ after,
      ¬ Flowing (decision.newState.getD inp.state) (decision.leaves inp.session) after := by
  obtain ⟨state, held, uncommitted⟩ := flows
  cases event : inp.event <;>
    simp only [event, ControllerEvent.settlesPulse, Bool.false_eq_true] at settles
  case offConfirmed atUtc =>
    by_cases auto : pulse.mode = .auto
    · refine ⟨pulseOffToSoaking inp pulse atUtc, ?_, rfl, not_flowing_of_left (.inr (.inl ?_))⟩
      · simp [decide, event, state, decideWatering, held, uncommitted, auto]
      · simp [pulseOffToSoaking]
    · refine ⟨finalizeManualComplete inp (closeRuntime pulse atUtc .manualComplete) [], ?_, ?_,
        not_flowing_of_left (.inl rfl)⟩
      · simp [decide, event, state, decideWatering, held, uncommitted, auto, finalizeWatering]
      · rfl
  case offNotConfirmed =>
    refine ⟨offNotConfirmedRow inp pulse, ?_, rfl, not_flowing_of_left (.inr (.inl ?_))⟩
    · simp [decide, event, state, decideWatering, held]
    · simp [offNotConfirmedRow]
  case configChangedPrepare =>
    refine ⟨commitTermination pulse .configChanged, ?_, rfl,
      not_flowing_of_left (.inr (.inr ⟨_, rfl, rfl⟩))⟩
    simp [decide, event, state, decideWatering, held, uncommitted]
  case homeAssistantShutdown =>
    refine ⟨commitTermination pulse .homeAssistantShutdown, ?_, rfl,
      not_flowing_of_left (.inr (.inr ⟨_, rfl, rfl⟩))⟩
    simp [decide, event, state, decideWatering, held, uncommitted]
  case startupPersistedWatering finding =>
    have row : decide inp = startupPersistedWateringRow inp pulse finding := by
      simp only [decide, event, state, decideWatering, held]
    obtain ⟨decision, decided, acts, left⟩ := startupPersistedWateringRow_settles inp pulse finding
    exact ⟨decision, row.trans decided, acts, not_flowing_of_left left⟩

end StateMachine

end MoistureLoop
