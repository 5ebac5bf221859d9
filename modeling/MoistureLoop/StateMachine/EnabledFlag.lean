import MoistureLoop.StateMachine.Zone

/-! # The enabled flag and the state

`async_set_enabled` sets the flag before it decides, most destinations are computed from
the flag, and some are not: a session committed to ZONE_DISABLED always ends DISABLED, and
a cleared fault and a cancelled soak always end IDLE. -/

open MoistureLoop.Action

namespace MoistureLoop

/-- Outside WATERING and SOAKING, DISABLED is only for a disabled zone, and a disabled zone
is DISABLED or in FAULT. -/
def FlagCoherent (state : ControllerState) (enabled : Bool) : Prop :=
  state ≠ .watering → state ≠ .soaking →
    (state = .disabled → enabled = false) ∧ (enabled = false → state = .disabled ∨ state = .fault)

theorem flagCoherent_of_destination {enabled : Bool} {state : ControllerState}
    (enabled' : enabled = true → state ≠ .disabled)
    (disabled' : enabled = false → state = .disabled ∨ state = .fault) :
    FlagCoherent state enabled := by
  refine fun _ _ => ⟨fun isDisabled => ?_, disabled'⟩
  cases enabled with
  | true => exact absurd isDisabled (enabled' rfl)
  | false => rfl

theorem flagCoherent_fault (enabled : Bool) : FlagCoherent .fault enabled :=
  flagCoherent_of_destination (by simp) (by simp)

/-- The destination of most completions. -/
theorem flagCoherent_ite (enabled : Bool) :
    FlagCoherent (if enabled then .idle else .disabled) enabled := by
  cases enabled <;> exact flagCoherent_of_destination (by simp) (by simp)

theorem flagCoherent_same {state : ControllerState} {newState : Option ControllerState}
    {enabled : Bool} (coherent : FlagCoherent state enabled)
    (same : newState = none ∨ newState = some state) :
    FlagCoherent (newState.getD state) enabled := by
  rcases same with rfl | rfl <;> exact coherent

theorem flagCoherent_of_watering {state : ControllerState} {enabled : Bool}
    (watering : state = .watering) : FlagCoherent state enabled :=
  fun away => absurd watering away

theorem flagCoherent_soaking (enabled : Bool) : FlagCoherent .soaking enabled :=
  fun _ away => absurd rfl away

namespace StateMachine

/-- The decision clears the fault of a zone: T42, or T43. -/
def ClearsFault (inp : TransitionInput) : Prop :=
  inp.state = .fault ∧ ∃ fault, inp.activeFault = some fault ∧ faultResolved inp fault = true ∧
    ((fault.autoClears = true ∧ inp.session = none ∧
        ((∃ observation, inp.event = .moistureReport observation) ∨
          ∃ offAt, inp.event = .externalActuatorOff offAt ∧ inp.externalOn = false)) ∨
      (inp.event = .clearFaultRequested ∧ fault.requiresReconfigure = false))

/-- The decisions whose destination agrees with the flag. -/
structure KeepsFlag (inp : TransitionInput) : Prop where
  /-- OFF evidence for a session that is to end DISABLED finds the zone disabled. -/
  disabling : inp.enabled = true → inp.state = .watering →
    (inp.session.bind SessionContext.pendingTerminationReason) = some .zoneDisabled →
    ∀ offAt, inp.event ≠ .externalActuatorOff offAt ∧ inp.event ≠ .offConfirmed offAt
  /-- The fault of a disabled zone is not cleared. -/
  clearing : inp.enabled = false → ¬ ClearsFault inp
  /-- The open soak of a disabled zone is not cancelled. -/
  cancelling : inp.enabled = false → inp.state = .soaking →
    (inp.session.bind SessionContext.pendingTerminationReason) = none →
    inp.event ≠ .stopRequested ∧ inp.event ≠ .configEntryReload ∧
      inp.event ≠ .configChangedPrepare

/-! ## Destinations -/

theorem finalizeManualComplete_coherent (inp : TransitionInput) (closed : SessionContext)
    (extraActions : List Action) :
    FlagCoherent ((finalizeManualComplete inp closed extraActions).newState.getD inp.state)
      inp.enabled := by
  cases enabled : inp.enabled with
  | false => simpa [finalizeManualComplete, enabled] using flagCoherent_ite false
  | true =>
    refine flagCoherent_of_destination (fun _ => ?_) (by simp)
    unfold finalizeManualComplete
    cases closed.retainedSensorFault with
    | none => simp [enabled]
    | some retained => by_cases fresh : freshValid inp <;> simp [enabled, fresh]

/-- So does every other completion, unless the session was committed to ZONE_DISABLED. -/
theorem postDestination_coherent (inp : TransitionInput) (closed : SessionContext)
    {reason : CompletionReason} (disabling : reason = .zoneDisabled → inp.enabled = false) :
    FlagCoherent (postDestination inp closed reason).1 inp.enabled := by
  unfold postDestination
  split
  · rename_i disabled
    exact flagCoherent_of_destination (by simp [disabling disabled]) (by simp)
  · split
    · cases inp.enabled with
      | false => exact flagCoherent_ite false
      | true => exact flagCoherent_fault true
    · cases enabled : inp.enabled with
      | false => exact flagCoherent_ite false
      | true =>
        refine flagCoherent_of_destination (fun _ => ?_) (by simp)
        simp only [Bool.not_true, Bool.false_eq_true, if_false]
        split
        · simp
        · split <;> simp
        · simp

theorem finalizeWatering_coherent {inp : TransitionInput} {session : SessionContext}
    {reason : CompletionReason} {offAt : Instant} {extraActions : List Action}
    {decision : Decision} (disabling : reason = .zoneDisabled → inp.enabled = false)
    (decided : finalizeWatering inp session reason offAt extraActions = .ok decision) :
    FlagCoherent (decision.newState.getD inp.state) inp.enabled := by
  simp only [finalizeWatering] at decided
  split at decided
  · obtain rfl := Except.ok.inj decided
    exact finalizeManualComplete_coherent inp _ extraActions
  · split at decided
    · cases decided
    · obtain rfl := Except.ok.inj decided
      exact postDestination_coherent inp _ disabling

theorem startAutoPulse_newState {inp : TransitionInput} {session : Option SessionContext}
    {decision : Decision} (decided : startAutoPulse inp session = .ok decision) :
    decision.newState = some .watering := by
  unfold startAutoPulse at decided
  split at decided
  · cases decided
  · split at decided
    · split at decided
      · cases decided
      · obtain rfl := Except.ok.inj decided
        rfl
    · obtain rfl := Except.ok.inj decided
      rfl

theorem manualStart_newState {inp : TransitionInput} {requestedS : Option Seconds}
    {row : String} {decision : Decision} (decided : manualStart inp requestedS row = .ok decision)
    (started : decision.session.isSome = true) : decision.newState = some .watering := by
  simp only [manualStart] at decided
  split at decided
  · split at decided
    · obtain rfl := Except.ok.inj decided
      cases started
    · split at decided
      · cases decided
      · obtain rfl := Except.ok.inj decided
        rfl
  · obtain rfl := Except.ok.inj decided
    cases started

/-- T42 clears a fault that its cause no longer holds, when no session is open. -/
theorem autoClears_of_faultAutoClearCheck {inp : TransitionInput}
    (cleared : (faultAutoClearCheck inp).clearFault = true) :
    ∃ fault, inp.activeFault = some fault ∧ faultResolved inp fault = true ∧
      fault.autoClears = true ∧ inp.session = none := by
  unfold faultAutoClearCheck at cleared
  split at cleared
  · cases cleared
  · rename_i fault latched
    split at cleared
    · cases cleared
    · rename_i kept
      split at cleared
      · cases cleared
      · rename_i resolved
        simp only [Bool.or_eq_true, Bool.not_eq_true', not_or, Bool.not_eq_false,
          Bool.not_eq_true, Option.isSome_eq_false_iff, Option.isNone_iff_eq_none] at kept
        exact ⟨fault, latched, by simpa using resolved, kept⟩

/-- T43 clears a fault that needs no reconfiguration. -/
theorem clearable_of_clearFaultRequest {inp : TransitionInput}
    (cleared : (clearFaultRequest inp).clearFault = true) :
    ∃ fault, inp.activeFault = some fault ∧ faultResolved inp fault = true ∧
      fault.requiresReconfigure = false := by
  unfold clearFaultRequest at cleared
  split at cleared
  · cases cleared
  · rename_i fault latched
    split at cleared
    · cases cleared
    · rename_i clearable
      split at cleared
      · cases cleared
      · rename_i resolved
        exact ⟨fault, latched, by simpa using resolved, by simpa using clearable⟩

/-- A fault that is cleared is cleared as T42 and T43 say. -/
theorem clearsFault_of_decide {inp : TransitionInput} {decision : Decision}
    (state : inp.state = .fault) (cleared : decision.clearFault = true)
    (decided : decide inp = .ok decision) : ClearsFault inp := by
  cases event : inp.event with
  | moistureReport observation =>
    simp only [decide, event, state, decideFault, Except.ok.injEq] at decided
    subst decided
    obtain ⟨fault, latched, resolved, clears⟩ := autoClears_of_faultAutoClearCheck cleared
    exact ⟨state, fault, latched, resolved, .inl ⟨clears.1, clears.2, .inl ⟨observation, event⟩⟩⟩
  | externalActuatorOff offAt =>
    simp only [decide, event, state, decideFault] at decided
    split at decided
    · rw [(closeOpenAccounting_frame decided).2] at cleared
      cases cleared
    · split at decided
      · obtain rfl := Except.ok.inj decided
        cases cleared
      · rename_i off
        obtain rfl := Except.ok.inj decided
        obtain ⟨fault, latched, resolved, clears⟩ := autoClears_of_faultAutoClearCheck cleared
        exact ⟨state, fault, latched, resolved, .inl ⟨clears.1, clears.2,
          .inr ⟨offAt, event, by simpa using off⟩⟩⟩
  | clearFaultRequested =>
    simp only [decide, event, state, decideFault, Except.ok.injEq] at decided
    subst decided
    obtain ⟨fault, latched, resolved, clearable⟩ := clearable_of_clearFaultRequest cleared
    exact ⟨state, fault, latched, resolved, .inr ⟨event, clearable⟩⟩
  -- No other event clears a fault.
  | manualStartRequested requestedS =>
    simp only [decide, event, state, decideFault] at decided
    rw [manualStart_clearFault decided] at cleared
    cases cleared
  | offConfirmed offAt =>
    simp only [decide, event, state, decideFault] at decided
    split at decided
    · rw [(closeOpenAccounting_frame decided).2] at cleared
      cases cleared
    · obtain rfl := Except.ok.inj decided
      cases cleared
  | externalActuatorOn =>
    simp only [decide, event, state, decideFault] at decided
    split at decided <;>
    · obtain rfl := Except.ok.inj decided
      cases cleared
  | configurationInvalid atSetup =>
    cases atSetup with
    | true =>
      simp only [decide, event, Except.ok.injEq] at decided
      subst decided
      cases cleared
    | false =>
      simp only [decide, event, state, decideFault] at decided
      split at decided <;>
      · obtain rfl := Except.ok.inj decided
        cases cleared
  | _ =>
    simp only [decide, event, state, decideFault, Except.ok.injEq] at decided
    subst decided
    cases cleared

theorem closeOpenAccounting_newState {inp : TransitionInput} {offAt : Instant}
    {decision : Decision} (decided : closeOpenAccounting inp offAt = .ok decision) :
    decision.newState = none := by
  unfold closeOpenAccounting at decided
  split at decided
  · cases decided
  · split at decided
    · cases decided
    · obtain rfl := Except.ok.inj decided
      rfl

theorem onConfirmedRow_newState {inp : TransitionInput} {session : SessionContext}
    {atUtc : Instant} {decision : Decision}
    (decided : onConfirmedRow inp session atUtc = .ok decision) : decision.newState = none := by
  unfold onConfirmedRow at decided
  split at decided
  · cases decided
  · obtain rfl := Except.ok.inj decided
    rfl

theorem startupPersistedSoaking_adopted {inp : TransitionInput} {session : SessionContext}
    {runId : Option String} {unsafeFault : Option FaultCode} {decision : Decision}
    (decided : startupPersistedSoakingRow inp session true runId unsafeFault = .ok decision) :
    decision.newState = some .soaking := by
  simp only [startupPersistedSoakingRow, if_true] at decided
  split at decided
  · cases decided
  · cases decided
  · cases decided
  · obtain rfl := Except.ok.inj decided
    rfl

theorem decide_flagCoherent {inp : TransitionInput} {decision : Decision}
    (coherent : FlagCoherent inp.state inp.enabled) (keeps : KeepsFlag inp)
    (other : inp.event.isToggle = false) (decided : decide inp = .ok decision) :
    FlagCoherent (decision.newState.getD inp.state) inp.enabled := by
  have row := decide_row decided
  cases row with
  | integrityLost | configurationInvalid => exact flagCoherent_fault _
  | passive state => exact flagCoherent_same coherent state
  | slotWait => exact coherent
  | declined _ state =>
    rcases state with ⟨idle, rfl⟩ | ⟨-, rfl⟩
    · exact flagCoherent_same coherent (.inr (by rw [idle]))
    · exact coherent
  | autoStart _ _ _ _ _ _ started | nextPulse _ _ _ _ _ _ _ _ started =>
    rw [startAutoPulse_newState started]
    exact flagCoherent_of_watering rfl
  | manualStart _ _ _ _ started opened =>
    rw [manualStart_newState started opened]
    exact flagCoherent_of_watering rfl
  | disable event | enableFault event | enableIdle event =>
    simp [event, ControllerEvent.isToggle] at other
  | externalOn _ _ _ state | externalOff _ _ _ state => exact flagCoherent_same coherent state
  | closeAccounting _ _ closed => exact flagCoherent_same coherent (.inl (closeOpenAccounting_newState closed))
  | onConfirmed _ _ _ confirmed => exact flagCoherent_same coherent (.inl (onConfirmedRow_newState confirmed))
  | commit | pulseEnd | recoveryCommit | soakSlotWait | soakInterference => exact coherent
  | refresh => exact flagCoherent_of_watering rfl
  | finalize state held evidence decided =>
    refine finalizeWatering_coherent (fun zoneDisabled => ?_) decided
    subst zoneDisabled
    cases evidence with
    | committed event pending =>
      cases enabled : inp.enabled with
      | false => rfl
      | true =>
        have never := keeps.disabling enabled state (by simp [held, pending])
        exact absurd event (not_or.mpr (never _))
  | recoveredOff _ _ _ decided => exact finalizeWatering_coherent (by simp) decided
  | pulseOff | soakPreserved => exact flagCoherent_soaking _
  | offNotConfirmed | soakOffNotConfirmed | soakFault => exact flagCoherent_fault _
  | soakExternal | soakCompletion => exact flagCoherent_ite _
  | soakCancel state held open' cancels =>
    rcases cancels with ⟨event, -⟩ | ⟨rfl, cancels⟩
    · simp [event, ControllerEvent.isToggle] at other
    · refine flagCoherent_of_destination (by simp [finalizeSoakingCancel]) fun disabled => ?_
      obtain ⟨stop, reload, changed⟩ := keeps.cancelling disabled state (by simp [held, open'])
      rcases cancels with ⟨event, -⟩ | ⟨event, -⟩ | ⟨event, -⟩
      · exact absurd event stop
      · exact absurd event reload
      · exact absurd event changed
  | soakAdopted _ _ _ _ decided =>
    rw [startupPersistedSoaking_adopted decided]
    exact flagCoherent_soaking _
  | @soakTerminated decision session runId unsafeFault _ _ _ _ decided =>
    simp only [startupPersistedSoakingRow, Bool.false_eq_true, if_false, Except.ok.injEq] at decided
    subst decided
    cases unsafeFault with
    | none => exact flagCoherent_ite _
    | some fault => exact flagCoherent_fault _
  | faultCleared state =>
    refine flagCoherent_of_destination (by simp) fun disabled => ?_
    exact absurd (clearsFault_of_decide state rfl decided) (keeps.clearing disabled)

end StateMachine

/-! ## Runs of a zone -/

namespace Zone

variable {zone next start finish : Zone} {label : ZoneLabel}

/-- The state of the zone agrees with its flag. -/
def EnabledCoherent (zone : Zone) : Prop := FlagCoherent zone.state zone.enabled

/-- Every decision of the step keeps the flag; requests for the flag are free. -/
def KeepsFlag (_ : Zone) (label : ZoneLabel) (_ : Zone) : Prop :=
  match label with
  | .decide input | .compensate input => StateMachine.KeepsFlag input
  | _ => True

/-- A request for the flag leads to a coherent state, whatever it finds. -/
theorem toggle_coherent {enabled : Bool} {input : TransitionInput}
    (feeds : { zone with enabled := enabled }.Feeds input)
    (event : input.event = toggleEvent enabled) :
    EnabledCoherent ({ zone with enabled := enabled }.decideWith input adopt) := by
  obtain ⟨state, -, session, fault, -⟩ := feeds
  simp only at state session fault
  cases kind : zone.state with
  | idle =>
    cases enabled <;>
      simp [decideWith, StateMachine.decide, StateMachine.decideIdle, state, kind, event,
        toggleEvent, adopt, EnabledCoherent, FlagCoherent, StateMachine.noOp]
  | disabled =>
    cases enabled with
    | false =>
      simp [decideWith, StateMachine.decide, StateMachine.decideDisabled, state, kind, event,
        toggleEvent, EnabledCoherent, FlagCoherent, StateMachine.noOp]
    | true =>
      cases latched : zone.activeFault <;>
        simp [decideWith, StateMachine.decide, StateMachine.decideDisabled, state, kind, event,
          fault, latched, toggleEvent, adopt, EnabledCoherent, FlagCoherent]
  | fault =>
    cases enabled <;>
      simp [decideWith, StateMachine.decide, StateMachine.decideFault, state, kind, event,
        toggleEvent, adopt, EnabledCoherent, FlagCoherent, StateMachine.noOp]
  | watering =>
    -- A flowing session at most commits its reason.
    refine flagCoherent_of_watering ?_
    cases held : zone.session with
    | none =>
      cases enabled <;>
        simp [decideWith, StateMachine.decide, StateMachine.decideWatering, state, kind, event,
          session, held, toggleEvent]
    | some open' =>
      cases pending : open'.pendingTerminationReason <;> cases enabled <;>
        simp [decideWith, StateMachine.decide, StateMachine.decideWatering, state, kind, event,
          session, held, pending, toggleEvent, adopt, StateMachine.commitTermination,
          StateMachine.noOp]
  | soaking =>
    cases held : zone.session with
    | none =>
      cases enabled <;>
        simp [decideWith, StateMachine.decide, StateMachine.decideSoaking, state, kind, event,
          session, held, toggleEvent, EnabledCoherent, FlagCoherent]
    | some open' =>
      cases pending : open'.pendingTerminationReason <;> cases enabled <;>
        simp [decideWith, StateMachine.decide, StateMachine.decideSoaking, state, kind, event,
          session, held, pending, toggleEvent, adopt, StateMachine.finalizeSoakingCancel,
          StateMachine.noOp, EnabledCoherent, FlagCoherent]

theorem not_isToggle_of_compensates {event : ControllerEvent} {mode : SessionMode}
    (compensates : event.compensates mode = true) : event.isToggle = false := by
  cases event <;> first | rfl | cases compensates

theorem EnabledCoherent.step (coherent : zone.EnabledCoherent)
    (stepped : zone.step label = some next) (keeps : KeepsFlag zone label next) :
    next.EnabledCoherent := by
  cases step_move stepped with
  | adopts feeds other decided =>
    obtain ⟨state, enabled, -⟩ := feeds
    have destination := StateMachine.decide_flagCoherent (by rw [state, enabled]; exact coherent)
      keeps other decided
    rw [state, enabled] at destination
    exact destination
  | ignores => exact coherent
  | toggles feeds event => exact toggle_coherent feeds event
  | commits held feeds event decided =>
    obtain ⟨state, enabled, -⟩ := feeds
    have destination := StateMachine.decide_flagCoherent (by rw [state, enabled]; exact coherent)
      keeps (not_isToggle_of_compensates event) decided
    rw [state, enabled] at destination
    exact destination
  | marks => exact coherent
  | commands => exact coherent
  | fails => exact flagCoherent_fault _

/-- In a run whose decisions all keep the flag, the state agrees with it throughout. -/
theorem enabledCoherent_of_run (reached : system.Run KeepsFlag start finish)
    (coherent : start.EnabledCoherent) : finish.EnabledCoherent := by
  induction reached with
  | refl => exact coherent
  | step label _ stepped keeps coherent => exact coherent.step stepped keeps

/-! ## A zone that is enabled again while it ends DISABLED -/

def flagCheck : ZoneLabel → Bool
  | .decide input | .compensate input =>
    input.activeFault.isNone && decide (input.state ≠ .soaking) &&
      !(input.enabled &&
        decide (input.session.bind SessionContext.pendingTerminationReason = some .zoneDisabled))
  | _ => true

theorem keepsFlag_of_check {label : ZoneLabel} (permitted : flagCheck label = true) :
    KeepsFlag zone label next := by
  cases label with
  | decide input | compensate input =>
    simp only [flagCheck, Bool.and_eq_true, decide_eq_true_eq, Bool.not_eq_true',
      Bool.and_eq_false_iff, decide_eq_false_iff_not, Option.isNone_iff_eq_none] at permitted
    obtain ⟨⟨calm, running⟩, disabling⟩ := permitted
    refine ⟨fun enabled _ committed => ?_, ?_, fun _ soaking => absurd soaking running⟩
    · exact absurd committed (disabling.resolve_left (by simp [enabled]))
    · rintro - ⟨-, fault, active, -⟩
      simp [calm] at active
  | _ => trivial

/-- A manual session is ended by Disable; the zone rests DISABLED until it is enabled again. -/
theorem enabledCoherent_of_run_toggled :
    ∃ disabled enabled,
      atRest.sampleRunWhile flagCheck [.inr (.manualStartRequested (some 60)), .inl false,
        .inr (.offConfirmed 100)] = some disabled ∧
      disabled.sampleRunWhile flagCheck [.inl true] = some enabled ∧
      disabled.state = .disabled ∧ enabled.state = .idle ∧
      disabled.EnabledCoherent ∧ enabled.EnabledCoherent := by
  have given : (atRest.sampleRunWhile flagCheck [.inr (.manualStartRequested (some 60)), .inl false,
      .inr (.offConfirmed 100)]).any (fun disabled => decide (disabled.state = .disabled) &&
        (disabled.sampleRunWhile flagCheck [.inl true]).any fun enabled =>
          decide (enabled.state = .idle)) = true := by decide +kernel
  obtain ⟨disabled, first, given⟩ := (Option.any_eq_true _ _).mp given
  obtain ⟨ended, given⟩ := Bool.and_eq_true_iff.mp given
  obtain ⟨enabled, second, rests⟩ := (Option.any_eq_true _ _).mp given
  have coherent : atRest.EnabledCoherent :=
    flagCoherent_of_destination (by simp [atRest]) (by simp [atRest])
  have kept := enabledCoherent_of_run
    (run_of_sampleRunWhile (fun _ _ _ => keepsFlag_of_check) first) coherent
  exact ⟨disabled, enabled, first, second, of_decide_eq_true ended, of_decide_eq_true rests, kept,
    enabledCoherent_of_run (run_of_sampleRunWhile (fun _ _ _ => keepsFlag_of_check) second) kept⟩

/-- Disable commits ZONE_DISABLED, Enable finds nothing to decide, and OFF ends in DISABLED
with the flag set. -/
theorem not_enabledCoherent_enabled_while_ending :
    ¬ ∀ start finish : Zone, system.Run (fun _ _ _ => True) start finish →
      start.EnabledCoherent → finish.EnabledCoherent := by
  intro claimed
  obtain ⟨finish, executed, ends⟩ := (Option.any_eq_true _ _).mp
    (show ((atRest.sampleRun
      [.inr (.manualStartRequested (some 60)), .inl false, .inl true,
        .inr (.offConfirmed 100)]).any fun finish =>
        decide (finish.state = .disabled) && finish.enabled) = true by decide +kernel)
  simp only [Bool.and_eq_true, decide_eq_true_eq] at ends
  have coherent := claimed _ finish (run_of_sampleRun executed)
    (flagCoherent_of_destination (by simp [atRest]) (by simp [atRest]))
  have disabled := (coherent (by simp [ends.1]) (by simp [ends.1])).1 ends.1
  simp [ends.2] at disabled

end Zone

end MoistureLoop
