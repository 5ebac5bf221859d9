import MoistureLoop.StateMachine.Zone

/-! # One session after the other

A zone shows its sessions by what it emits: a session is started, a termination is
committed, OFF stays unproven, and the session is finished.  In an orderly log every
session that was started is finished before the next one starts, exactly once, with the
reason that was committed first unless unproven OFF has superseded it. -/

open MoistureLoop.Action

namespace MoistureLoop

/-- What applying decisions shows of the sessions of a zone. -/
inductive SessionEvent where
  | started
  | committed (reason : CompletionReason)
  | offUnproven
  | finished (reason : Option CompletionReason)
  deriving DecidableEq, Repr

/-- The reason that unproven OFF leaves committed. -/
def supersede (pending : Option CompletionReason) : CompletionReason :=
  if pending = some .restartRecovery then .restartRecovery else .actuatorFault

/-- `Orderly held log`: the log, with its latest event first, is one session after the
other; `held` is the committed reason of the session that is still open, if one is. -/
inductive Orderly : Option (Option CompletionReason) → List SessionEvent → Prop where
  | begins (held : Option (Option CompletionReason)) : Orderly held []
  | started {log : List SessionEvent} : Orderly none log → Orderly (some none) (.started :: log)
  | committed {log : List SessionEvent} (reason : CompletionReason) :
      Orderly (some none) log → Orderly (some (some reason)) (.committed reason :: log)
  | offUnproven {log : List SessionEvent} {pending : Option CompletionReason} :
      Orderly (some pending) log → Orderly (some (some (supersede pending))) (.offUnproven :: log)
  | finished {log : List SessionEvent} {pending : Option CompletionReason}
      {reason : CompletionReason} : Orderly (some pending) log →
      pending = none ∨ pending = some reason → Orderly none (.finished (some reason) :: log)

/-- The state agrees with the session: none in IDLE, one in WATERING and SOAKING, and in
FAULT and DISABLED only one whose reason is committed. -/
def SessionCoherent : ControllerState → Option SessionContext → Prop
  | .idle, session => session = none
  | .watering, session => session.isSome = true
  -- Only interference commits the termination of a soak.
  | .soaking, session => ∃ held, session = some held ∧
      (held.pendingTerminationReason = none ∨
        held.pendingTerminationReason = some .externalActuatorStateChange)
  | .fault, session | .disabled, session =>
    ∀ held, session = some held → held.pendingTerminationReason.isSome = true

theorem sessionCoherent_none {state : ControllerState}
    (rests : state ≠ .watering ∧ state ≠ .soaking) : SessionCoherent state none := by
  cases state <;> simp_all [SessionCoherent]

/-- The destination of most completions. -/
theorem ite_rests (enabled : Bool) :
    (if enabled then ControllerState.idle else .disabled) ≠ .watering ∧
      (if enabled then ControllerState.idle else .disabled) ≠ .soaking := by
  cases enabled <;> simp

namespace StateMachine

def firstCommitted (inp : TransitionInput) (decision : Decision) : Option CompletionReason :=
  match inp.session.bind SessionContext.pendingTerminationReason with
  | some _ => none
  | none => decision.session.bind SessionContext.pendingTerminationReason

/-- What applying a decision shows, in order. -/
def sessionEvents (inp : TransitionInput) (decision : Decision) : List SessionEvent :=
  List.replicate (decision.actions.count emitSessionStarted) .started
    ++ List.replicate (decision.actions.count emitSessionFinished) (.finished decision.reason)
    ++ (if inp.event = .offNotConfirmed ∧ decision.session.isSome then [.offUnproven]
      else (firstCommitted inp decision).toList.map SessionEvent.committed)

/-- The decisions that keep sessions in order. -/
structure KeepsOrder (inp : TransitionInput) : Prop where
  /-- The fault is not acknowledged while a session is open (T43). -/
  acknowledging : Acknowledged inp → inp.session = none
  /-- A zone with an open session and no fault is not enabled (T47). -/
  enabling : inp.event = .enableRequested → inp.state = .disabled → inp.activeFault = none →
    inp.session = none
  /-- The faults of setup do not find a session without a committed reason (T52, T53). -/
  faulting : inp.event = .storeIntegrityLost ∨ inp.event = .configurationInvalid true →
    ∀ session, inp.session = some session → session.pendingTerminationReason.isSome = true
  /-- The recovery of a pulse does not find another committed reason. -/
  recovering : ∀ finding, inp.event = .startupPersistedWatering finding →
    inp.state = .watering → ∀ session, inp.session = some session →
    session.pendingTerminationReason = none ∨
      session.pendingTerminationReason = some .restartRecovery

inductive SessionStep (inp : TransitionInput) (decision : Decision) : Prop where
  | starts {session : SessionContext} : inp.session = none → decision.session = some session →
      session.pendingTerminationReason = none → decision.clearSession = false →
      decision.newState = some .watering → sessionEvents inp decision = [.started] →
      SessionStep inp decision
  | finishes {session : SessionContext} {reason : CompletionReason} :
      inp.session = some session →
      session.pendingTerminationReason = none ∨ session.pendingTerminationReason = some reason →
      decision.clearSession = true →
      decision.newState.getD inp.state ≠ .watering ∧ decision.newState.getD inp.state ≠ .soaking →
      sessionEvents inp decision = [.finished (some reason)] → SessionStep inp decision
  | commits {before after : SessionContext} {reason : CompletionReason} :
      inp.session = some before → before.pendingTerminationReason = none →
      decision.session = some after → after.pendingTerminationReason = some reason →
      decision.clearSession = false →
      SessionCoherent (decision.newState.getD inp.state) (some after) →
      sessionEvents inp decision = [.committed reason] → SessionStep inp decision
  | unproven {before after : SessionContext} : inp.session = some before →
      decision.session = some after →
      after.pendingTerminationReason = some (supersede before.pendingTerminationReason) →
      decision.clearSession = false → decision.newState = some .fault →
      sessionEvents inp decision = [.offUnproven] → SessionStep inp decision
  | keeps : (decision.session.or inp.session).map SessionContext.pendingTerminationReason =
        inp.session.map SessionContext.pendingTerminationReason →
      decision.clearSession = false →
      SessionCoherent (decision.newState.getD inp.state) (decision.session.or inp.session) →
      sessionEvents inp decision = [] → SessionStep inp decision

theorem sessionEvents_of_silent {inp : TransitionInput} {decision : Decision}
    (noStart : emitSessionStarted ∉ decision.actions)
    (noFinish : emitSessionFinished ∉ decision.actions) (session : decision.session = none) :
    sessionEvents inp decision = [] := by
  have committed : firstCommitted inp decision = none := by
    unfold firstCommitted
    split <;> simp [session]
  simp [sessionEvents, List.count_eq_zero.mpr noStart, List.count_eq_zero.mpr noFinish, session,
    committed]

/-- A decision that keeps the session in a state that is coherent with it. -/
theorem SessionStep.silent {inp : TransitionInput} {decision : Decision}
    (coherent : SessionCoherent (decision.newState.getD inp.state) inp.session)
    (session : decision.session = none) (kept : decision.clearSession = false)
    (noStart : emitSessionStarted ∉ decision.actions)
    (noFinish : emitSessionFinished ∉ decision.actions) : SessionStep inp decision :=
  .keeps (by simp [session]) kept (by simpa [session] using coherent)
    (sessionEvents_of_silent noStart noFinish session)

theorem SessionStep.stays {inp : TransitionInput} {decision : Decision}
    (coherent : SessionCoherent inp.state inp.session)
    (state : decision.newState = none ∨ decision.newState = some inp.state)
    (session : decision.session = none) (kept : decision.clearSession = false)
    (noStart : emitSessionStarted ∉ decision.actions)
    (noFinish : emitSessionFinished ∉ decision.actions) : SessionStep inp decision := by
  refine .silent ?_ session kept noStart noFinish
  rcases state with same | same <;> simpa [same] using coherent

theorem SessionStep.closes {inp : TransitionInput} {decision : Decision}
    {session : SessionContext} {reason : CompletionReason} (held : inp.session = some session)
    (committed : session.pendingTerminationReason = none ∨
      session.pendingTerminationReason = some reason)
    (named : decision.reason = some reason) (cleared : decision.clearSession = true)
    (session' : decision.session = none)
    (rests : decision.newState.getD inp.state ≠ .watering ∧
      decision.newState.getD inp.state ≠ .soaking)
    (noStart : emitSessionStarted ∉ decision.actions)
    (once : decision.actions.count emitSessionFinished = 1) : SessionStep inp decision := by
  refine .finishes held committed cleared rests ?_
  have silent : firstCommitted inp decision = none := by
    unfold firstCommitted
    split <;> simp [session']
  simp [sessionEvents, List.count_eq_zero.mpr noStart, once, session', silent, named]

theorem postDestination_rests (inp : TransitionInput) (closed : SessionContext)
    (reason : CompletionReason) :
    (postDestination inp closed reason).1 ≠ .watering ∧
      (postDestination inp closed reason).1 ≠ .soaking := by
  refine ⟨(postDestination_ne_watering inp closed reason).1, ?_⟩
  unfold postDestination
  split
  · simp
  · split
    · split <;> simp
    · split
      · simp
      · simp only
        split
        · simp
        · split <;> simp
        · simp

theorem finalizeManualComplete_closes (inp : TransitionInput) (closed : SessionContext)
    {extraActions : List Action} (defensive : ∀ action ∈ extraActions, action = executeOff true) :
    let decision := finalizeManualComplete inp closed extraActions
    decision.reason = some .manualComplete ∧ decision.clearSession = true ∧
      decision.session = none ∧
      (decision.newState.getD inp.state ≠ .watering ∧ decision.newState.getD inp.state ≠ .soaking) ∧
      emitSessionStarted ∉ decision.actions ∧ decision.actions.count emitSessionFinished = 1 := by
  have noStart : emitSessionStarted ∉ extraActions := fun member => by cases defensive _ member
  have noFinish : extraActions.count emitSessionFinished = 0 :=
    List.count_eq_zero.mpr fun member => by cases defensive _ member
  unfold finalizeManualComplete
  cases inp.enabled <;> cases closed.retainedSensorFault with
    | none => simp [noStart, noFinish, List.count_append]
    | some retained =>
      by_cases fresh : freshValid inp = true <;>
        simp [fresh, noStart, noFinish, List.count_append]

theorem finalizeWatering_sessionStep {inp : TransitionInput} {session closing : SessionContext}
    {reason : CompletionReason} {offAt : Instant} {extraActions : List Action}
    {decision : Decision} (held : inp.session = some session)
    (committed : session.pendingTerminationReason = none ∨
      session.pendingTerminationReason = some reason)
    (defensive : ∀ action ∈ extraActions, action = executeOff true)
    (decided : finalizeWatering inp closing reason offAt extraActions = .ok decision) :
    SessionStep inp decision := by
  simp only [finalizeWatering] at decided
  split at decided
  · rename_i manual
    obtain rfl := Except.ok.inj decided
    obtain ⟨named, cleared, session', rests, noStart, once⟩ :=
      finalizeManualComplete_closes inp (closeRuntime closing offAt reason) defensive
    exact .closes held (manual ▸ committed) named cleared session' rests noStart once
  · split at decided
    · cases decided
    · obtain rfl := Except.ok.inj decided
      have noStart : emitSessionStarted ∉ extraActions := fun member => by
        cases defensive _ member
      have noFinish : extraActions.count emitSessionFinished = 0 :=
        List.count_eq_zero.mpr fun member => by cases defensive _ member
      have clears := (postDestination_ne_watering inp (closeRuntime closing offAt reason) reason).2
      have noStart' : emitSessionStarted ∉
          (postDestination inp (closeRuntime closing offAt reason) reason).2.2.1 := fun member => by
        obtain ⟨fault, same⟩ := clears _ member
        cases same
      have noFinish' : (postDestination inp (closeRuntime closing offAt reason)
          reason).2.2.1.count emitSessionFinished = 0 :=
        List.count_eq_zero.mpr fun member => by
          obtain ⟨fault, same⟩ := clears _ member
          cases same
      refine .closes held committed rfl rfl rfl
        (by simpa using postDestination_rests inp (closeRuntime closing offAt reason) reason) ?_ ?_
      · simp [noStart, noStart']
      · simp [noFinish, noFinish', List.count_append]

/-- A decision that commits the first termination of the session, and stays. -/
theorem SessionStep.commitsFirst {inp : TransitionInput} {decision : Decision}
    {before after : SessionContext} {reason : CompletionReason} (held : inp.session = some before)
    (open' : before.pendingTerminationReason = none) (updated : decision.session = some after)
    (pending : after.pendingTerminationReason = some reason)
    (kept : decision.clearSession = false)
    (coherent : SessionCoherent (decision.newState.getD inp.state) (some after))
    (proven : inp.event ≠ .offNotConfirmed) (noStart : emitSessionStarted ∉ decision.actions)
    (noFinish : emitSessionFinished ∉ decision.actions) : SessionStep inp decision := by
  refine .commits held open' updated pending kept coherent ?_
  simp [sessionEvents, List.count_eq_zero.mpr noStart, List.count_eq_zero.mpr noFinish, proven,
    firstCommitted, held, open', updated, pending]

/-- A decision that goes on with the session and leaves its termination as it was. -/
theorem SessionStep.continues {inp : TransitionInput} {decision : Decision}
    {before after : SessionContext} (held : inp.session = some before)
    (updated : decision.session = some after)
    (pending : after.pendingTerminationReason = before.pendingTerminationReason)
    (kept : decision.clearSession = false)
    (coherent : SessionCoherent (decision.newState.getD inp.state) (some after))
    (proven : inp.event ≠ .offNotConfirmed) (noStart : emitSessionStarted ∉ decision.actions)
    (noFinish : emitSessionFinished ∉ decision.actions) : SessionStep inp decision := by
  refine .keeps (by simp [updated, held, pending]) kept (by simpa [updated] using coherent) ?_
  have silent : firstCommitted inp decision = none := by
    cases committed : before.pendingTerminationReason <;>
      simp [firstCommitted, held, updated, pending, committed]
  simp [sessionEvents, List.count_eq_zero.mpr noStart, List.count_eq_zero.mpr noFinish, proven,
    silent]

theorem SessionStep.keepsOpen {inp : TransitionInput} {decision : Decision}
    {before after : SessionContext} (held : inp.session = some before)
    (event : inp.event = .offNotConfirmed) (updated : decision.session = some after)
    (pending : after.pendingTerminationReason = some (supersede before.pendingTerminationReason))
    (kept : decision.clearSession = false) (fault : decision.newState = some .fault)
    (noStart : emitSessionStarted ∉ decision.actions)
    (noFinish : emitSessionFinished ∉ decision.actions) : SessionStep inp decision := by
  refine .unproven held updated pending kept fault ?_
  simp [sessionEvents, List.count_eq_zero.mpr noStart, List.count_eq_zero.mpr noFinish, event,
    updated]

/-- A fault that does not look at the session finds none, or a committed one. -/
theorem SessionStep.faults {inp : TransitionInput} {decision : Decision}
    (committed : ∀ session, inp.session = some session →
      session.pendingTerminationReason.isSome = true)
    (state : decision.newState = some .fault) (session : decision.session = none)
    (kept : decision.clearSession = false) (noStart : emitSessionStarted ∉ decision.actions)
    (noFinish : emitSessionFinished ∉ decision.actions) : SessionStep inp decision :=
  .silent (by rw [state]; exact committed) session kept noStart noFinish

theorem offNotConfirmedRow_supersedes (inp : TransitionInput) (session : SessionContext) :
    ∃ after, (offNotConfirmedRow inp session).session = some after ∧
      after.pendingTerminationReason = some (supersede session.pendingTerminationReason) := by
  simp only [offNotConfirmedRow, supersede]
  by_cases recovering : session.pendingTerminationReason = some .restartRecovery
  · simp only [if_pos recovering]
    exact ⟨_, rfl, rfl⟩
  · simp only [if_neg recovering]
    exact ⟨_, rfl, rfl⟩

theorem startAutoPulse_sessionStep {inp : TransitionInput} {session : Option SessionContext}
    {decision : Decision} (started : mayStart inp.event = true)
    (same : session.map SessionContext.pendingTerminationReason =
      inp.session.map SessionContext.pendingTerminationReason)
    (decided : startAutoPulse inp session = .ok decision) : SessionStep inp decision := by
  have proven : inp.event ≠ .offNotConfirmed := fun event => by simp [event, mayStart] at started
  unfold startAutoPulse at decided
  split at decided
  · cases decided
  · split at decided
    · split at decided
      · cases decided
      · obtain rfl := Except.ok.inj decided
        have absent : inp.session = none := by simpa using same.symm
        exact .starts absent rfl rfl rfl rfl (by simp [sessionEvents, proven, firstCommitted, absent])
    · rename_i next
      obtain rfl := Except.ok.inj decided
      obtain ⟨held, before, pending⟩ := Option.map_eq_some_iff.mp same.symm
      exact .continues before rfl pending.symm rfl rfl proven (by simp) (by simp)

theorem manualStart_sessionStep {inp : TransitionInput} {requestedS : Option Seconds}
    {row : String} {decision : Decision} (absent : inp.session = none)
    (decided : manualStart inp requestedS row = .ok decision)
    (event : inp.event = .manualStartRequested requestedS)
    (started : decision.session.isSome = true) : SessionStep inp decision := by
  simp only [manualStart] at decided
  split at decided
  · split at decided
    · obtain rfl := Except.ok.inj decided
      cases started
    · split at decided
      · cases decided
      · obtain rfl := Except.ok.inj decided
        exact .starts absent rfl rfl rfl rfl (by simp [sessionEvents, event, firstCommitted, absent])
  · obtain rfl := Except.ok.inj decided
    cases started

/-- Outside setup the fault of an invalid configuration finds no open session, or one whose
termination is committed. -/
theorem pending_of_configurationInvalid {inp : TransitionInput} {row : String}
    (coherent : SessionCoherent inp.state inp.session)
    (event : inp.event = .configurationInvalid false)
    (decided : decide inp = .ok (configurationInvalidRow inp row)) :
    ∀ session, inp.session = some session → session.pendingTerminationReason.isSome = true := by
  intro session held
  cases state : inp.state with
  | idle => simp [SessionCoherent, state, held] at coherent
  | fault | disabled =>
    simp only [SessionCoherent, state] at coherent
    exact coherent session held
  | watering => simp [decide, event, state, decideWatering, held, noOp, configurationInvalidRow] at decided
  | soaking =>
    cases pending : session.pendingTerminationReason with
    | some reason => rfl
    | none =>
      simp [decide, event, state, decideSoaking, held, pending, noOp, configurationInvalidRow]
        at decided

theorem closeOpenAccounting_sessionStep {inp : TransitionInput} {decision : Decision}
    {offAt : Instant} (state : inp.state = .disabled ∨ inp.state = .fault)
    (closed : closeOpenAccounting inp offAt = .ok decision) : SessionStep inp decision := by
  cases held : inp.session with
  | none => simp [closeOpenAccounting, held] at closed
  | some session =>
    cases pending : session.pendingTerminationReason with
    | none => simp [closeOpenAccounting, held, pending] at closed
    | some reason =>
      simp only [closeOpenAccounting, held, pending, Except.ok.injEq] at closed
      subst closed
      have rests : inp.state ≠ .watering ∧ inp.state ≠ .soaking := by
        rcases state with state | state <;> simp [state]
      exact .closes held (.inr pending) rfl rfl rfl rests (by simp) (by simp)

theorem onConfirmedRow_sessionStep {inp : TransitionInput} {decision : Decision}
    {session : SessionContext} {atUtc : Instant} (state : inp.state = .watering)
    (held : inp.session = some session) (event : inp.event = .onConfirmed atUtc)
    (confirmed : onConfirmedRow inp session atUtc = .ok decision) : SessionStep inp decision := by
  unfold onConfirmedRow at confirmed
  split at confirmed
  · cases confirmed
  · obtain rfl := Except.ok.inj confirmed
    refine .continues held rfl rfl rfl (by simp [SessionCoherent, state]) (by simp [event]) ?_ ?_ <;>
      simp only [List.mem_append, List.mem_singleton, reduceCtorEq, false_or] <;>
      split <;> simp

theorem commitTermination_sessionStep {inp : TransitionInput} {session : SessionContext}
    {reason : CompletionReason} {fault : Option FaultCode} {defensive : Bool}
    (state : inp.state = .watering) (held : inp.session = some session)
    (open' : session.pendingTerminationReason = none)
    (trigger : Trigger inp session reason fault defensive) :
    SessionStep inp (commitTermination session reason fault defensive) := by
  refine .commitsFirst held open' rfl rfl rfl (by simp [SessionCoherent, state, commitTermination])
    ?_ ?_ ?_
  · cases trigger <;> simp [*]
  all_goals
    simp only [commitTermination, List.mem_append, List.mem_singleton, reduceCtorEq, false_or,
      or_false]
    split <;> simp

/-- The session of a soak has no committed reason but external interference. -/
theorem interfered_of_soaking {inp : TransitionInput} {session : SessionContext}
    (coherent : SessionCoherent inp.state inp.session) (state : inp.state = .soaking)
    (held : inp.session = some session) : session.pendingTerminationReason = none ∨
      session.pendingTerminationReason = some .externalActuatorStateChange := by
  obtain ⟨held', same, kind⟩ : ∃ held, inp.session = some held ∧
      (held.pendingTerminationReason = none ∨
        held.pendingTerminationReason = some .externalActuatorStateChange) := by
    simpa [SessionCoherent, state] using coherent
  obtain rfl := Option.some.inj (held.symm.trans same)
  exact kind

theorem soakingOffNotConfirmed_sessionStep {inp : TransitionInput} {session : SessionContext}
    (coherent : SessionCoherent inp.state inp.session) (state : inp.state = .soaking)
    (held : inp.session = some session) (event : inp.event = .offNotConfirmed) :
    SessionStep inp (soakingOffNotConfirmed inp session) := by
  refine .keepsOpen held event rfl ?_ rfl rfl (by simp [soakingOffNotConfirmed])
    (by simp [soakingOffNotConfirmed])
  rcases interfered_of_soaking coherent state held with kind | kind <;> simp [supersede, kind]

/-- T50 keeps the session that the restart found. -/
theorem adoptedSoak_sessionStep {inp : TransitionInput} {decision : Decision}
    {session : SessionContext} {runId : Option String} {unsafeFault : Option FaultCode}
    (held : inp.session = some session) (open' : session.pendingTerminationReason = none)
    (event : inp.event = .startupPersistedSoaking true runId unsafeFault)
    (adopted : startupPersistedSoakingRow inp session true runId unsafeFault = .ok decision) :
    SessionStep inp decision := by
  simp only [startupPersistedSoakingRow, if_true] at adopted
  split at adopted
  · cases adopted
  · cases adopted
  · cases adopted
  · obtain rfl := Except.ok.inj adopted
    refine .continues held rfl rfl rfl (by simp [SessionCoherent, open']) (by simp [event]) ?_ ?_ <;>
      simp only [List.mem_append, List.mem_singleton, reduceCtorEq, false_or] <;>
      split <;> (try split) <;> simp

/-- T51 ends it, in FAULT when the actuator is unsafe. -/
theorem terminatedSoak_sessionStep {inp : TransitionInput} {decision : Decision}
    {session : SessionContext} {runId : Option String} {unsafeFault : Option FaultCode}
    (held : inp.session = some session) (open' : session.pendingTerminationReason = none)
    (terminated : startupPersistedSoakingRow inp session false runId unsafeFault = .ok decision) :
    SessionStep inp decision := by
  simp only [startupPersistedSoakingRow, Bool.false_eq_true, if_false, Except.ok.injEq] at terminated
  subst terminated
  refine .closes held (.inl open') rfl rfl rfl ?_ ?_ ?_
  · cases unsafeFault with
    | none => exact ite_rests inp.enabled
    | some fault => simp
  · cases unsafeFault <;> simp
  · cases unsafeFault <;> simp

/-- Every decision that keeps sessions in order does one of five things with them. -/
theorem decide_sessionStep {inp : TransitionInput} {decision : Decision}
    (coherent : SessionCoherent inp.state inp.session) (keeps : KeepsOrder inp)
    (decided : decide inp = .ok decision) : SessionStep inp decision := by
  -- A coherent zone has no session in IDLE, and a committed one in FAULT and DISABLED.
  have idle : inp.state = .idle → inp.session = none := fun state => by
    simpa [SessionCoherent, state] using coherent
  have halted : inp.state = .fault ∨ inp.state = .disabled → ∀ session,
      inp.session = some session → session.pendingTerminationReason.isSome = true := by
    rintro (state | state) <;> simpa [SessionCoherent, state] using coherent
  cases decide_row decided with
  -- The integration failed: the condition has it that a session in hand is committed.
  | integrityLost event =>
    exact .faults (keeps.faulting (.inl event)) rfl rfl rfl (by simp [integrityLost])
      (by simp [integrityLost])
  | configurationInvalid row atSetup event =>
    refine .faults ?_ rfl rfl rfl (by simp [configurationInvalidRow])
      (by simp [configurationInvalidRow])
    cases atSetup with
    | true => exact keeps.faulting (.inr event)
    | false => exact pending_of_configurationInvalid coherent event decided
  | passive state timers _ _ _ session kept =>
    refine .stays coherent state session kept ?_ ?_ <;>
      exact fun member => by simpa [isTimerAction] using timers _ member
  | slotWait => exact .stays coherent (.inl rfl) rfl rfl (by simp) (by simp)
  | declined _ state =>
    refine .stays coherent ?_ rfl rfl (by simp) (by simp)
    rcases state with ⟨idle, rfl⟩ | ⟨-, rfl⟩
    · exact .inr (by rw [idle])
    · exact .inl rfl
  -- Sessions that begin, or go on with the next pulse.
  | autoStart state event _ _ _ _ started =>
    exact startAutoPulse_sessionStep event (by simp [idle state]) started
  | nextPulse _ held open' event _ _ _ _ started =>
    exact startAutoPulse_sessionStep event (by simp [held]) started
  | manualStart event _ passed _ started opened =>
    refine manualStart_sessionStep ?_ started event opened
    by_contra held
    exact manualGuardFailures_ne_nil (Option.isSome_iff_ne_none.mpr held) passed
  -- In FAULT and DISABLED the session is left as it is.
  | disable _ state =>
    refine .silent ?_ rfl rfl (by simp) (by simp)
    rcases state with state | state
    · simp [SessionCoherent, idle state]
    · exact halted (.inl state)
  | externalOn _ _ _ state | externalOff _ _ _ state =>
    exact .stays coherent state rfl rfl (by simp) (by simp)
  | enableFault _ state => exact .faults (halted (.inr state)) rfl rfl rfl (by simp) (by simp)
  | enableIdle event state unlatched =>
    exact .silent (keeps.enabling event state unlatched) rfl rfl (by simp) (by simp)
  -- WATERING: the session is confirmed, committed, or finished on OFF evidence.
  | closeAccounting _ state closed => exact closeOpenAccounting_sessionStep state closed
  | onConfirmed state held event confirmed =>
    exact onConfirmedRow_sessionStep state held event confirmed
  | commit state held open' trigger => exact commitTermination_sessionStep state held open' trigger
  | pulseEnd => exact .stays coherent (.inl rfl) rfl rfl (by simp) (by simp)
  | refresh state held =>
    refine .continues held rfl rfl rfl (by simp [SessionCoherent]) (fun event => ?_) (by simp) (by simp)
    rw [decide_offNotConfirmed held event state] at decided
    simp [offNotConfirmedRow] at decided
  | finalize state held evidence decided =>
    cases evidence with
    | committed event pending =>
      exact finalizeWatering_sessionStep held (.inr pending) (by simp) decided
    | external event open' => exact finalizeWatering_sessionStep held (.inl open') (by simp) decided
    | manualOff event open' => exact finalizeWatering_sessionStep held (.inl open') (by simp) decided
  | recoveredOff state held event decided =>
    exact finalizeWatering_sessionStep held (keeps.recovering _ event state _ held) (by simp) decided
  | recoveryCommit state held event finding =>
    rcases keeps.recovering _ event state _ held with open' | pending
    · exact .commitsFirst held open' rfl rfl rfl (by simp [SessionCoherent, state]) (by simp [event])
        (by simp) (by simp)
    · exact .continues held rfl pending.symm rfl (by simp [SessionCoherent, state]) (by simp [event])
        (by simp) (by simp)
  | pulseOff state held open' _ event =>
    exact .continues held rfl rfl rfl ⟨_, rfl, .inl open'⟩ (by simp [event])
      (by simp [pulseOffToSoaking]) (by simp [pulseOffToSoaking])
  | @offNotConfirmed session state held event =>
    obtain ⟨after, updated, pending⟩ := offNotConfirmedRow_supersedes inp session
    exact .keepsOpen held event updated pending rfl rfl (by simp [offNotConfirmedRow])
      (by simp [offNotConfirmedRow])
  -- SOAKING: every way out of the soak but T25 closes the session.
  | soakExternal state held _ =>
    exact .closes held (interfered_of_soaking coherent state held) rfl rfl rfl
      (ite_rests inp.enabled) (by simp [finalizeSoakingExternal]) (by simp [finalizeSoakingExternal])
  | soakOffNotConfirmed state held _ event =>
    exact soakingOffNotConfirmed_sessionStep coherent state held event
  | soakCompletion state held open' =>
    exact .closes held (.inl open') rfl rfl rfl (ite_rests inp.enabled)
      (by simp [finalizeSoakingCompletion]) (by simp [finalizeSoakingCompletion])
  | soakFault _ state held open' =>
    exact .closes held (.inl open') rfl rfl rfl (by simp [finalizeSoakingFault])
      (by simp [finalizeSoakingFault]) (by simp [finalizeSoakingFault])
  | @soakSlotWait session value guard state held open' =>
    refine .continues held rfl rfl rfl (by simp [SessionCoherent, state, open']) (fun event => ?_)
      (by simp) (by simp)
    simp [decide, event, state, decideSoaking, held, open', noOp] at decided
  | soakInterference state held open' event =>
    exact .commitsFirst held open' rfl rfl rfl (by simp [SessionCoherent, state]) (by simp [event])
      (by simp) (by simp)
  | soakCancel state held open' cancels =>
    refine .closes held (.inl open') rfl rfl rfl ?_ (by simp [finalizeSoakingCancel])
      (by simp [finalizeSoakingCancel])
    rcases cancels with ⟨-, rfl, -⟩ | ⟨rfl, -⟩ <;> simp [finalizeSoakingCancel]
  | soakPreserved state =>
    exact .stays coherent (.inr (by rw [state])) rfl rfl (by simp) (by simp)
  | soakAdopted _ held open' event adopted => exact adoptedSoak_sessionStep held open' event adopted
  | soakTerminated _ held open' _ terminated => exact terminatedSoak_sessionStep held open' terminated
  -- T42 finds no session; T43 does not look for one, so that is in the condition.
  | faultCleared state latched cleared resolved =>
    refine .silent ?_ rfl rfl (by simp) (by simp)
    rcases cleared with ⟨-, -, absent⟩ | ⟨-, event, reconfigure⟩
    · exact absent
    · exact keeps.acknowledging ⟨event, state, _, latched, reconfigure, resolved⟩

end StateMachine

/-! ## Runs of a zone -/

/-- A zone with the log of its sessions, its latest event first. -/
structure Ledger where
  zone : Zone
  log : List SessionEvent := []

namespace Ledger

/-- What deciding an input shows; a raise and a no-op show nothing. -/
def shown (input : TransitionInput) : List SessionEvent :=
  match StateMachine.decide input with
  | .error _ => []
  | .ok decision => if decision.noOp then [] else StateMachine.sessionEvents input decision

/-- One decision, applied with every write succeeding. -/
def step (ledger : Ledger) (label : ZoneLabel) : Option Ledger :=
  match label with
  | .decide input | .setEnabled _ input =>
    (ledger.zone.step label).map fun zone => ⟨zone, (shown input).reverse ++ ledger.log⟩
  | _ => none

def system : LabelledSystem Ledger ZoneLabel := ⟨step⟩

/-- The committed reason of the open session, if there is one. -/
def held (ledger : Ledger) : Option (Option CompletionReason) :=
  ledger.zone.session.map SessionContext.pendingTerminationReason

/-- The state agrees with the session, and the log is one session after the other. -/
structure InOrder (ledger : Ledger) : Prop where
  coherent : SessionCoherent ledger.zone.state ledger.zone.session
  orderly : Orderly ledger.held ledger.log

/-- The decision of the step keeps sessions in order. -/
def KeepsOrder (_ : Ledger) (label : ZoneLabel) (_ : Ledger) : Prop :=
  match label with
  | .decide input | .setEnabled _ input => StateMachine.KeepsOrder input
  | _ => True

variable {ledger next start finish : Ledger} {label : ZoneLabel}

theorem InOrder.adopt {zone : Zone} {input : TransitionInput} {log : List SessionEvent}
    {decision : Decision} (order : InOrder ⟨zone, log⟩) (feeds : zone.Feeds input)
    (effect : StateMachine.SessionStep input decision) :
    InOrder ⟨zone.adopt decision, (StateMachine.sessionEvents input decision).reverse ++ log⟩ := by
  obtain ⟨state, -, session, -⟩ := feeds
  obtain ⟨coherent, orderly⟩ := order
  simp only [held, ← session] at orderly
  cases effect with
  | starts absent opened pending kept newState shows =>
    rw [absent] at orderly
    refine ⟨by simp [Zone.adopt, newState, kept, opened, SessionCoherent], ?_⟩
    simpa [held, Zone.adopt, kept, opened, pending, shows] using orderly.started
  | finishes before committed cleared rests shows =>
    rw [before] at orderly
    refine ⟨?_, ?_⟩
    · simpa [Zone.adopt, cleared] using sessionCoherent_none (state ▸ rests)
    · simpa [held, Zone.adopt, cleared, shows] using orderly.finished committed
  | commits before open' updated pending kept coherent' shows =>
    rw [before, Option.map_some, open'] at orderly
    refine ⟨by simpa [Zone.adopt, kept, updated, state] using coherent', ?_⟩
    simpa [held, Zone.adopt, kept, updated, pending, shows] using orderly.committed _
  | unproven before updated pending kept newState shows =>
    rw [before] at orderly
    refine ⟨by simp [Zone.adopt, kept, updated, newState, SessionCoherent, pending], ?_⟩
    simpa [held, Zone.adopt, kept, updated, pending, shows] using orderly.offUnproven
  | keeps same kept coherent' shows =>
    refine ⟨by simpa [Zone.adopt, kept, state, session] using coherent', ?_⟩
    simpa [held, Zone.adopt, kept, shows, ← session, same] using orderly

theorem InOrder.decideWith {zone : Zone} {input : TransitionInput} {log : List SessionEvent}
    (order : InOrder ⟨zone, log⟩) (feeds : zone.Feeds input)
    (keeps : StateMachine.KeepsOrder input) :
    InOrder ⟨zone.decideWith input Zone.adopt, (shown input).reverse ++ log⟩ := by
  have coherent : SessionCoherent input.state input.session := by
    rw [feeds.1, feeds.2.2.1]
    exact order.coherent
  unfold Zone.decideWith shown
  cases decided : StateMachine.decide input with
  | error err => exact order
  | ok decision =>
    simp only
    split
    · exact order
    · exact order.adopt feeds (StateMachine.decide_sessionStep coherent keeps decided)

theorem InOrder.step (order : ledger.InOrder) (stepped : ledger.step label = some next)
    (keeps : KeepsOrder ledger label next) : next.InOrder := by
  cases label with
  | decide input =>
    obtain ⟨zone, decided, rfl⟩ := Option.map_eq_some_iff.mp stepped
    obtain ⟨⟨feeds, -⟩, same⟩ := Option.ite_none_right_eq_some.mp decided
    obtain rfl := Option.some.inj same
    exact order.decideWith feeds keeps
  | setEnabled enabled input =>
    obtain ⟨zone, decided, rfl⟩ := Option.map_eq_some_iff.mp stepped
    obtain ⟨⟨feeds, -⟩, same⟩ := Option.ite_none_right_eq_some.mp decided
    obtain rfl := Option.some.inj same
    have toggled : InOrder ⟨{ ledger.zone with enabled := enabled }, ledger.log⟩ :=
      ⟨order.coherent, order.orderly⟩
    exact toggled.decideWith feeds keeps
  | _ => cases stepped

/-- From a coherent state, a run whose decisions all keep sessions in order stays coherent and
shows one session after the other. -/
theorem inOrder_of_run (reached : system.Run KeepsOrder start finish)
    (coherent : SessionCoherent start.zone.state start.zone.session) (unlogged : start.log = []) :
    finish.InOrder := by
  have initial : start.InOrder := ⟨coherent, by rw [unlogged]; exact .begins _⟩
  induction reached with
  | refl => exact initial
  | step label _ stepped keeps order => exact order.step stepped keeps

/-- A sequence of requests and events, each shown the zone as it then is. -/
def sampleRun (ledger : Ledger) : List (Bool ⊕ ControllerEvent) → Option Ledger
  | [] => some ledger
  | event :: rest => (ledger.step (ledger.zone.sampleLabel event)).bind (sampleRun · rest)

theorem run_of_sampleRun {events : List (Bool ⊕ ControllerEvent)}
    (executed : ledger.sampleRun events = some finish) :
    system.Run (fun _ _ _ => True) ledger finish := by
  induction events generalizing ledger with
  | nil =>
    obtain rfl := Option.some.inj executed
    exact .refl
  | cons event rest inductionHypothesis =>
    obtain ⟨next, stepped, executed⟩ := Option.bind_eq_some_iff.mp executed
    have stepped : system.step ledger (ledger.zone.sampleLabel event) = some next := stepped
    exact .head stepped trivial (inductionHypothesis executed)

def sampleRunWhile (permits : ZoneLabel → Bool) (ledger : Ledger) :
    List (Bool ⊕ ControllerEvent) → Option Ledger
  | [] => some ledger
  | event :: rest =>
    if permits (ledger.zone.sampleLabel event) then
      (ledger.step (ledger.zone.sampleLabel event)).bind (sampleRunWhile permits · rest)
    else none

theorem run_of_sampleRunWhile {permits : ZoneLabel → Bool}
    {guard : Ledger → ZoneLabel → Ledger → Prop}
    (sound : ∀ ledger label next, permits label = true → guard ledger label next)
    {events : List (Bool ⊕ ControllerEvent)}
    (executed : ledger.sampleRunWhile permits events = some finish) :
    system.Run guard ledger finish := by
  induction events generalizing ledger with
  | nil =>
    obtain rfl := Option.some.inj executed
    exact .refl
  | cons event rest inductionHypothesis =>
    obtain ⟨permitted, executed⟩ := Option.ite_none_right_eq_some.mp executed
    obtain ⟨next, stepped, executed⟩ := Option.bind_eq_some_iff.mp executed
    have stepped : system.step ledger (ledger.zone.sampleLabel event) = some next := stepped
    exact .head stepped (sound _ _ _ permitted) (inductionHypothesis executed)

/-- A check that implies that a decision keeps sessions in order: an open session meets only
requests to stop and OFF evidence. -/
def orderCheck : ZoneLabel → Bool
  | .decide input | .setEnabled _ input =>
    input.session.isNone || match input.event with
      | .stopRequested | .offNotConfirmed | .offConfirmed _ => true
      | _ => false
  | _ => true

theorem keepsOrder_of_check (permitted : orderCheck label = true) :
    KeepsOrder ledger label next := by
  cases label with
  | decide input | setEnabled _ input =>
    cases open' : input.session with
    | none =>
      exact ⟨fun _ => open', fun _ _ _ => open', by simp [open'], by simp [open']⟩
    | some session =>
      simp only [orderCheck, open', Option.isNone_some, Bool.false_or] at permitted
      refine ⟨?_, ?_, ?_, ?_⟩ <;>
        cases event : input.event <;> simp_all [StateMachine.Acknowledged]
  | _ => trivial

/-- A session is stopped, its OFF stays unproven and is proven later; once the fault is
acknowledged the next session starts. -/
theorem inOrder_of_run_restarted :
    ∃ finish, sampleRunWhile orderCheck ⟨Zone.atRest, []⟩
        [.inr (.manualStartRequested (some 60)), .inr .stopRequested, .inr .offNotConfirmed,
          .inr (.offConfirmed 100), .inr .clearFaultRequested,
          .inr (.manualStartRequested (some 60))] = some finish ∧
      finish.log = [.started, .finished (some .actuatorFault), .offUnproven,
        .committed .userStop, .started] ∧
      finish.InOrder := by
  obtain ⟨finish, executed, shows⟩ := (Option.any_eq_true _ _).mp
    (show (sampleRunWhile orderCheck ⟨Zone.atRest, []⟩
      [.inr (.manualStartRequested (some 60)), .inr .stopRequested, .inr .offNotConfirmed,
        .inr (.offConfirmed 100), .inr .clearFaultRequested,
        .inr (.manualStartRequested (some 60))]).any (fun finish =>
        decide (finish.log = [.started, .finished (some .actuatorFault), .offUnproven,
          .committed .userStop, .started])) = true by decide +kernel)
  exact ⟨finish, executed, of_decide_eq_true shows,
    inOrder_of_run (run_of_sampleRunWhile (fun _ _ _ => keepsOrder_of_check) executed) rfl rfl⟩

/-- Once OFF has stayed unproven, the acknowledgement of the fault leads the zone back to IDLE
with its session open. -/
theorem not_inOrder_acknowledged :
    ¬ ∀ start finish : Ledger, system.Run (fun _ _ _ => True) start finish →
      SessionCoherent start.zone.state start.zone.session → start.log = [] → finish.InOrder := by
  intro claimed
  obtain ⟨finish, executed, ends⟩ := (Option.any_eq_true _ _).mp
    (show (sampleRun ⟨Zone.atRest, []⟩
      [.inr (.manualStartRequested (some 60)), .inr .offNotConfirmed,
        .inr .clearFaultRequested]).any (fun finish =>
        decide (finish.zone.state = .idle) && finish.zone.session.isSome) = true by decide +kernel)
  obtain ⟨idle, open'⟩ := Bool.and_eq_true_iff.mp ends
  have coherent := (claimed _ finish (run_of_sampleRun executed) rfl rfl).coherent
  rw [of_decide_eq_true idle] at coherent
  simp [show finish.zone.session = none from coherent] at open'

end Ledger

end MoistureLoop
