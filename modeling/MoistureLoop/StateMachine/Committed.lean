import MoistureLoop.StateMachine.Effect

/-! # Sessions with a committed termination

Once a session outside SOAKING has a committed reason, every later decision keeps it
committed or closes it with its reason.  Only an acknowledgement of the fault, which does
not look at the session, leads it back to IDLE. -/

open MoistureLoop.Action

namespace MoistureLoop.StateMachine

/-- The session has a committed reason other than the completion of a manual run, and its
zone is still WATERING, or in FAULT or DISABLED with the fault latched. -/
structure Committed (state : ControllerState) (activeFault : Option FaultCode)
    (session : SessionContext) : Prop where
  reason : ∃ reason, session.pendingTerminationReason = some reason ∧ reason ≠ .manualComplete
  resting : state = .watering ∨ (state = .fault ∨ state = .disabled) ∧ activeFault.isSome = true

/-- An operator's acknowledgement that clears the fault (T43). -/
def Acknowledged (inp : TransitionInput) : Prop :=
  inp.event = .clearFaultRequested ∧ inp.state = .fault ∧
    ∃ fault, inp.activeFault = some fault ∧ fault.requiresReconfigure = false ∧
      faultResolved inp fault = true

def faultAfter (inp : TransitionInput) (decision : Decision) : Option FaultCode :=
  if decision.clearFault then none else decision.fault.or inp.activeFault

/-- The events that close a session whose reason is committed. -/
def IsClosing (event : ControllerEvent) : Prop :=
  (∃ offAt, event = .externalActuatorOff offAt ∨ event = .offConfirmed offAt) ∨
    event = .startupPersistedWatering .off

/-- What a decision does with a committed session: it closes it with a committed reason, or
keeps one committed and starts nothing. -/
inductive KeepsCommitted (inp : TransitionInput) (decision : Decision) : Prop where
  | closes {reason : CompletionReason} : IsClosing inp.event → decision.clearSession = true →
      decision.finalSession.isSome = true → decision.reason = some reason →
      reason ≠ .manualComplete → KeepsCommitted inp decision
  | keeps {after : SessionContext} : decision.clearSession = false →
      decision.session.or inp.session = some after →
      Committed (decision.newState.getD inp.state) (faultAfter inp decision) after →
      (decision.newState.getD inp.state = .watering → inp.state = .watering) →
      KeepsCommitted inp decision

/-- A finalized session is closed with the reason it was finalized for. -/
theorem finalizeWatering_closes {inp : TransitionInput} {session : SessionContext}
    {reason : CompletionReason} {offAt : Instant} {extraActions : List Action}
    {decision : Decision}
    (decided : finalizeWatering inp session reason offAt extraActions = .ok decision) :
    decision.noOp = false ∧ decision.clearSession = true ∧
      decision.finalSession.isSome = true ∧ decision.reason = some reason := by
  simp only [finalizeWatering] at decided
  split at decided
  · rename_i manual
    obtain rfl := Except.ok.inj decided
    exact ⟨rfl, rfl, rfl, congrArg some manual.symm⟩
  · split at decided
    · cases decided
    · obtain rfl := Except.ok.inj decided
      exact ⟨rfl, rfl, rfl, rfl⟩

theorem closeOpenAccounting_closes {inp : TransitionInput} {session : SessionContext}
    {offAt : Instant} {decision : Decision} (held : inp.session = some session)
    (decided : closeOpenAccounting inp offAt = .ok decision) :
    decision.clearSession = true ∧ decision.finalSession.isSome = true ∧
      decision.reason = session.pendingTerminationReason := by
  simp only [closeOpenAccounting, held] at decided
  split at decided
  · cases decided
  · rename_i committed
    obtain rfl := Except.ok.inj decided
    exact ⟨rfl, rfl, committed.symm⟩

/-- An unproven OFF keeps the session open under the actuator fault or the recovery. -/
theorem offNotConfirmedRow_session (inp : TransitionInput) (session : SessionContext) :
    ∃ after, (offNotConfirmedRow inp session).session = some after ∧
      ∃ reason, after.pendingTerminationReason = some reason ∧ reason ≠ .manualComplete := by
  simp only [offNotConfirmedRow]
  by_cases recovering : session.pendingTerminationReason = some .restartRecovery
  · simp only [if_pos recovering]
    exact ⟨_, rfl, .restartRecovery, rfl, by simp⟩
  · simp only [if_neg recovering]
    exact ⟨_, rfl, .actuatorFault, rfl, by simp⟩

/-- A manual start is refused while a session is open. -/
theorem manualGuardFailures_ne_nil {inp : TransitionInput} {requestedS : Option Seconds}
    (opened : inp.session.isSome = true) : manualGuardFailures inp requestedS ≠ [] := by
  simp [manualGuardFailures, opened]

theorem Committed.ne_idle {state : ControllerState} {activeFault : Option FaultCode}
    {session : SessionContext} (committed : Committed state activeFault session) :
    state ≠ .idle := by
  rintro rfl
  simpa using committed.resting

theorem Committed.ne_soaking {state : ControllerState} {activeFault : Option FaultCode}
    {session : SessionContext} (committed : Committed state activeFault session) :
    state ≠ .soaking := by
  rintro rfl
  simpa using committed.resting

theorem Committed.stays {inp : TransitionInput} {decision : Decision} {session : SessionContext}
    (committed : Committed inp.state inp.activeFault session) (held : inp.session = some session)
    (state : decision.newState = none ∨ decision.newState = some inp.state)
    (session' : decision.session = none) (kept : decision.clearSession = false)
    (fault : decision.fault = none) (uncleared : decision.clearFault = false) :
    KeepsCommitted inp decision := by
  have same : decision.newState.getD inp.state = inp.state := by
    rcases state with none | some <;> simp [*]
  refine .keeps kept (by rw [session', held]; rfl) ?_ fun watering => same ▸ watering
  simpa [same, faultAfter, fault, uncleared] using committed

/-- A decision that leads to FAULT with a fault and touches at most the reason. -/
theorem KeepsCommitted.faults {inp : TransitionInput} {decision : Decision} {after : SessionContext}
    {fault : FaultCode} (held : decision.session.or inp.session = some after)
    (reason : ∃ reason, after.pendingTerminationReason = some reason ∧ reason ≠ .manualComplete)
    (state : decision.newState = some .fault) (latched : decision.fault = some fault)
    (kept : decision.clearSession = false) (uncleared : decision.clearFault = false) :
    KeepsCommitted inp decision :=
  .keeps kept held ⟨reason, by simp [state, faultAfter, uncleared, latched]⟩ (by simp [state])

/-- Every decision about a committed session but an acknowledgement keeps it committed or
closes it. -/
theorem decide_keepsCommitted {inp : TransitionInput} {decision : Decision}
    {session : SessionContext} (held : inp.session = some session)
    (committed : Committed inp.state inp.activeFault session) (open' : ¬ Acknowledged inp)
    (decided : decide inp = .ok decision) : KeepsCommitted inp decision := by
  obtain ⟨reason, pending, notManual⟩ := committed.reason
  have only : ∀ {other : SessionContext}, inp.session = some other → other = session :=
    fun same => Option.some.inj (same.symm.trans held)
  have uncommitted : ∀ {other : SessionContext}, inp.session = some other →
      other.pendingTerminationReason ≠ none := fun same => by simp [only same, pending]
  cases decide_row decided with
  -- FAULT keeps the session for its accounting.
  | integrityLost | configurationInvalid =>
    exact .faults (by simpa [integrityLost, configurationInvalidRow] using held)
      ⟨reason, pending, notManual⟩ rfl rfl rfl rfl
  | passive state _ fault _ uncleared session' kept =>
    exact committed.stays held state session' kept fault uncleared
  | slotWait => exact committed.stays held (.inl rfl) rfl rfl rfl rfl
  | declined _ state =>
    rcases state with ⟨idle, -⟩ | ⟨soaking, -⟩
    · exact absurd idle committed.ne_idle
    · exact absurd soaking committed.ne_soaking
  | autoStart state => exact absurd state committed.ne_idle
  | manualStart _ _ passed => exact absurd passed (manualGuardFailures_ne_nil (by simp [held]))
  -- T46 is the way back, so the fault has to stay.
  | disable _ state =>
    have fault : inp.state = .fault := state.resolve_left committed.ne_idle
    have latched : inp.activeFault.isSome = true := by simpa [fault] using committed.resting
    exact .keeps rfl held ⟨⟨reason, pending, notManual⟩, by simpa [faultAfter] using latched⟩
      (by simp)
  | externalOn _ _ _ state | externalOff _ _ _ state =>
    exact committed.stays held state rfl rfl rfl rfl
  | enableFault =>
    exact .faults held ⟨reason, pending, notManual⟩ rfl rfl rfl rfl
  | enableIdle _ disabled unlatched => simpa [disabled, unlatched] using committed.resting
  -- OFF evidence closes the session with its reason.
  | closeAccounting event _ decided =>
    obtain ⟨cleared, final, closing⟩ := closeOpenAccounting_closes held decided
    exact .closes (.inl ⟨_, event⟩) cleared final (closing.trans pending) notManual
  | onConfirmed state held' _ decided =>
    obtain rfl := only held'
    simp only [onConfirmedRow] at decided
    split at decided
    · cases decided
    · obtain rfl := Except.ok.inj decided
      exact .keeps rfl rfl ⟨⟨reason, pending, notManual⟩, .inl state⟩ fun _ => state
  -- These rows need an uncommitted session.
  | commit _ held' open'' | pulseEnd _ held' _ open'' | refresh _ held' _ open''
  | pulseOff _ held' open'' => exact absurd open'' (uncommitted held')
  | finalize _ held' evidence decided =>
    obtain ⟨-, cleared, final, closing⟩ := finalizeWatering_closes decided
    cases evidence with
    | committed event pending' =>
      obtain rfl := only held'
      obtain rfl := Option.some.inj (pending.symm.trans pending')
      exact .closes (.inl ⟨_, event⟩) cleared final closing notManual
    | external _ open'' => exact absurd open'' (uncommitted held')
    | manualOff _ open'' => exact absurd open'' (uncommitted held')
  -- A restart commits a reason of its own.
  | recoveredOff _ _ event decided =>
    obtain ⟨-, cleared, final, closing⟩ := finalizeWatering_closes decided
    exact .closes (.inr event) cleared final closing (by simp)
  | recoveryCommit state held' =>
    exact .keeps rfl rfl ⟨⟨_, rfl, by simp⟩, .inl state⟩ fun _ => state
  | offNotConfirmed _ held' =>
    obtain ⟨after, updated, named⟩ := offNotConfirmedRow_session inp _
    exact .faults (by rw [updated]; rfl) named rfl rfl rfl rfl
  -- A committed session does not soak.
  | nextPulse state | soakExternal state | soakOffNotConfirmed state | soakCompletion state
  | soakFault _ state | soakSlotWait state | soakInterference state | soakCancel state
  | soakPreserved state | soakAdopted state | soakTerminated state =>
    exact absurd state committed.ne_soaking
  -- T42 needs the session closed; T43 is excluded.
  | faultCleared state latched cleared resolved =>
    rcases cleared with ⟨-, -, closed⟩ | ⟨-, event, reconfigure⟩
    · simp [held] at closed
    · exact absurd ⟨event, state, _, latched, reconfigure, resolved⟩ open'

/-! ## The outcome of an OFF operation -/

def IsOutcome (event : ControllerEvent) : Prop :=
  event = .offNotConfirmed ∨ ∃ offAt, event = .offConfirmed offAt

theorem SessionEffect.leaves_of_clears {inp : TransitionInput} {decision : Decision}
    (effect : SessionEffect inp decision) (cleared : decision.clearSession = true) :
    decision.newState.getD inp.state ≠ .watering := by
  cases effect with
  | clears _ _ away => exact away
  | starts _ _ kept | updates _ _ _ _ kept | keeps _ kept => simp [kept] at cleared

theorem finalizeWatering_leaves {inp : TransitionInput} {session : SessionContext}
    {reason : CompletionReason} {offAt : Instant} {decision : Decision}
    (decided : finalizeWatering inp session reason offAt = .ok decision) :
    decision.noOp = false ∧ decision.newState.getD inp.state ≠ .watering := by
  obtain ⟨acts, cleared, -⟩ := finalizeWatering_closes decided
  exact ⟨acts, (finalizeWatering_clears (by simp) decided).leaves_of_clears cleared⟩

theorem decide_offNotConfirmed {inp : TransitionInput} {session : SessionContext}
    (held : inp.session = some session) (event : inp.event = .offNotConfirmed)
    (watering : inp.state = .watering) :
    decide inp = .ok (offNotConfirmedRow inp session) := by
  simp [decide, event, watering, decideWatering, held]

/-- The outcome of an OFF operation ends WATERING, whatever the session. -/
theorem decide_leavesWatering {inp : TransitionInput} {decision : Decision}
    (outcome : IsOutcome inp.event) (watering : inp.state = .watering)
    (decided : decide inp = .ok decision) :
    decision.noOp = false ∧ decision.newState.getD inp.state ≠ .watering := by
  cases held : inp.session with
  | none => rcases outcome with event | ⟨offAt, event⟩ <;>
      simp [decide, event, watering, decideWatering, held] at decided
  | some session =>
    rcases outcome with event | ⟨offAt, event⟩
    · obtain rfl := Except.ok.inj ((decide_offNotConfirmed held event watering).symm.trans decided)
      exact ⟨rfl, by simp [offNotConfirmedRow]⟩
    · simp only [decide, event, watering, decideWatering, held] at decided
      split at decided
      · exact finalizeWatering_leaves decided
      · split at decided
        · obtain rfl := Except.ok.inj decided
          exact ⟨rfl, by simp [pulseOffToSoaking]⟩
        · exact finalizeWatering_leaves decided

/-- The outcome of an OFF operation never leads to WATERING. -/
theorem decide_ne_watering {inp : TransitionInput} {decision : Decision}
    (outcome : IsOutcome inp.event) (decided : decide inp = .ok decision) :
    decision.newState.getD inp.state ≠ .watering := by
  by_cases watering : inp.state = .watering
  · exact (decide_leavesWatering outcome watering decided).2
  · cases decide_effect decided with
    | starts _ _ _ _ _ allowed =>
      rcases outcome with event | ⟨offAt, event⟩ <;> simp [StartsAllowed, event, mayStart] at allowed
    | clears _ _ away => exact away
    | updates _ _ _ _ _ _ _ _ _ leads => exact fun ends => watering (leads ends).1
    | keeps _ _ _ _ leads => exact fun ends => watering (leads ends)

/-! ## Decisions without a session -/

theorem startAutoPulse_finalSession {inp : TransitionInput} {session : Option SessionContext}
    {decision : Decision} (decided : startAutoPulse inp session = .ok decision) :
    decision.finalSession = none := by
  unfold startAutoPulse at decided
  split at decided
  · cases decided
  · split at decided
    · split at decided
      · cases decided
      · obtain rfl := Except.ok.inj decided
        rfl
    · obtain rfl := Except.ok.inj decided
      rfl

theorem manualStart_finalSession {inp : TransitionInput} {requestedS : Option Seconds}
    {row : String} {decision : Decision} (decided : manualStart inp requestedS row = .ok decision) :
    decision.finalSession = none := by
  simp only [manualStart] at decided
  split at decided
  · split at decided
    · obtain rfl := Except.ok.inj decided
      rfl
    · split at decided
      · cases decided
      · obtain rfl := Except.ok.inj decided
        rfl
  · obtain rfl := Except.ok.inj decided
    rfl

/-- Without a session no decision closes one. -/
theorem decide_finalSession_of_absent {inp : TransitionInput} {decision : Decision}
    (absent : inp.session = none) (decided : decide inp = .ok decision) :
    decision.finalSession = none := by
  cases decide_row decided with
  | passive _ _ _ _ _ _ _ final => exact final
  | autoStart _ _ _ _ _ _ started => exact startAutoPulse_finalSession started
  | nextPulse _ _ _ _ _ _ _ _ started => exact startAutoPulse_finalSession started
  | manualStart _ _ _ _ started => exact manualStart_finalSession started
  | closeAccounting _ _ closed => simp [closeOpenAccounting, absent] at closed
  | onConfirmed _ held | finalize _ held | recoveredOff _ held
  | soakExternal _ held | soakCompletion _ held | soakFault _ _ held | soakCancel _ held
  | soakAdopted _ held | soakTerminated _ held => simp [absent] at held
  | _ => rfl

end MoistureLoop.StateMachine
