import MoistureLoop.StateMachine.Rows

/-! # What a decision does to the session

Every row starts a pulse, clears the session, updates it within its pulse, or leaves it.
`decide_effect` is what the invariants of the controller need from the rows: which of
the four it is, and what its actions can contain. -/

open MoistureLoop.Action

namespace MoistureLoop.StateMachine

def isStartAction : Action → Bool
  | persistState _ | armWatchdog _ | turnOn | armTimer _ _ | emitSessionStarted => true
  | _ => false

def isExecuteOff : Action → Bool
  | executeOff _ => true
  | _ => false

def isCommitAction : Action → Bool
  | persistState _ | emitFaultSet _ _ | executeOff _ => true
  | _ => false

/-- Only some events start a pulse, and only a manual request starts one on a sensor that
is not fresh. -/
def StartsAllowed (inp : TransitionInput) : Prop :=
  mayStart inp.event = true ∧
    ((∃ requestedS, inp.event = .manualStartRequested requestedS) ∨ freshValid inp = true)

inductive SessionEffect (inp : TransitionInput) (decision : Decision) : Prop where
  /-- A new pulse: the intent is recorded and ON is requested. -/
  | starts (session : SessionContext) :
      decision.session = some session → decision.clearSession = false →
      session.openPulse = true → session.pendingTerminationReason = none →
      StartsAllowed inp → inp.resource.slotGranted = true → turnOn ∈ decision.actions →
      (∀ action ∈ decision.actions, isStartAction action = true) → SessionEffect inp decision
  | clears : decision.clearSession = true → decision.session = none →
      decision.newState.getD inp.state ≠ .watering → turnOn ∉ decision.actions →
      SessionEffect inp decision
  /-- The same pulse goes on; a termination that becomes committed has its OFF requested,
  with nothing else to do except at startup. -/
  | updates (before after : SessionContext) :
      inp.session = some before → decision.session = some after →
      decision.clearSession = false → after.pulse = before.pulse →
      (after.openPulse = true → before.openPulse = true) →
      turnOn ∉ decision.actions → removeBlocker .integrationOffUnconfirmed ∉ decision.actions →
      (decision.newState.getD inp.state = .watering → inp.state = .watering ∧
        (after.pendingTerminationReason = before.pendingTerminationReason ∨
          (decision.actions.any isExecuteOff = true ∧
            ((∀ action ∈ decision.actions, isCommitAction action = true) ∨
              ∃ finding, inp.event = .startupPersistedWatering finding)))) →
      SessionEffect inp decision
  | keeps : decision.session = none → decision.clearSession = false →
      turnOn ∉ decision.actions → removeBlocker .integrationOffUnconfirmed ∉ decision.actions →
      (decision.newState.getD inp.state = .watering → inp.state = .watering) →
      SessionEffect inp decision

theorem freshValid_of_postQualifies {inp : TransitionInput}
    (qualifies : postQualifies inp = true) : freshValid inp = true := by
  unfold postQualifies at qualifies
  split at qualifies
  · cases qualifies
  · split at qualifies
    · simp only [Bool.and_eq_true] at qualifies
      exact qualifies.1
    · cases qualifies

theorem startAutoPulse_starts {inp : TransitionInput} {session : Option SessionContext}
    {decision : Decision} (allowed : StartsAllowed inp)
    (granted : inp.resource.slotGranted = true)
    (uncommitted : ∀ held, session = some held → held.pendingTerminationReason = none)
    (decided : startAutoPulse inp session = .ok decision) : SessionEffect inp decision := by
  unfold startAutoPulse at decided
  split at decided
  · cases decided
  · split at decided
    · split at decided
      · cases decided
      · obtain rfl := Except.ok.inj decided
        exact .starts _ rfl rfl rfl rfl allowed granted (by simp) (by simp [isStartAction])
    · rename_i held
      obtain rfl := Except.ok.inj decided
      exact .starts _ rfl rfl rfl (uncommitted held rfl) allowed granted (by simp)
        (by simp [isStartAction])

theorem manualStart_starts {inp : TransitionInput} {requestedS : Option Seconds} {row : String}
    {decision : Decision} (allowed : StartsAllowed inp)
    (granted : inp.resource.slotGranted = true)
    (decided : manualStart inp requestedS row = .ok decision)
    (started : decision.session.isSome) : SessionEffect inp decision := by
  simp only [manualStart] at decided
  split at decided
  · split at decided
    · obtain rfl := Except.ok.inj decided
      cases started
    · split at decided
      · cases decided
      · obtain rfl := Except.ok.inj decided
        exact .starts _ rfl rfl rfl rfl allowed granted (by simp) (by simp [isStartAction])
  · obtain rfl := Except.ok.inj decided
    cases started

/-- A finalized session ends outside WATERING. -/
theorem postDestination_ne_watering (inp : TransitionInput) (closed : SessionContext)
    (reason : CompletionReason) :
    (postDestination inp closed reason).1 ≠ .watering ∧
      ∀ action ∈ (postDestination inp closed reason).2.2.1, ∃ fault, action = emitFaultCleared fault := by
  unfold postDestination
  split
  · simp
  · split
    · split <;> simp
    · split
      · simp
      · simp only
        split
        · simp
        · split <;> simp
        · simp

theorem finalizeManualComplete_clears (inp : TransitionInput) (closed : SessionContext)
    {extraActions : List Action} (extra : turnOn ∉ extraActions) :
    SessionEffect inp (finalizeManualComplete inp closed extraActions) := by
  unfold finalizeManualComplete
  cases closed.retainedSensorFault with
  | none => exact .clears rfl rfl (by simp; split <;> simp) (by simp [extra])
  | some retained =>
    by_cases fresh : freshValid inp
    · exact .clears rfl rfl (by simp [fresh]; split <;> simp) (by simp [fresh, extra])
    · exact .clears rfl rfl (by simp [fresh]; split <;> simp) (by simp [fresh, extra])

theorem finalizeWatering_clears {inp : TransitionInput} {session : SessionContext}
    {reason : CompletionReason} {offAt : Instant} {extraActions : List Action}
    {decision : Decision} (extra : turnOn ∉ extraActions)
    (decided : finalizeWatering inp session reason offAt extraActions = .ok decision) :
    SessionEffect inp decision := by
  simp only [finalizeWatering] at decided
  split at decided
  · obtain rfl := Except.ok.inj decided
    exact finalizeManualComplete_clears inp _ extra
  · split at decided
    · cases decided
    · obtain rfl := Except.ok.inj decided
      obtain ⟨away, cleared⟩ :=
        postDestination_ne_watering inp (closeRuntime session offAt reason) reason
      refine .clears rfl rfl (by simpa using away) ?_
      simp only [List.mem_append, List.mem_cons, List.not_mem_nil, or_false, not_or]
      refine ⟨⟨extra, by simp⟩, fun member => ?_⟩
      obtain ⟨fault, same⟩ := cleared _ member
      cases same

/-- The rows that start a manual session or close an open accounting leave the fault alone. -/
theorem manualStart_clearFault {inp : TransitionInput} {requestedS : Option Seconds}
    {row : String} {decision : Decision}
    (decided : manualStart inp requestedS row = .ok decision) : decision.clearFault = false := by
  simp only [manualStart] at decided
  split at decided
  · split at decided
    · obtain rfl := Except.ok.inj decided
      rfl
    · split at decided
      · cases decided
      · obtain rfl := Except.ok.inj decided
        rfl
  · obtain rfl := Except.ok.inj decided
    rfl

theorem closeOpenAccounting_frame {inp : TransitionInput} {offAt : Instant}
    {decision : Decision} (decided : closeOpenAccounting inp offAt = .ok decision) :
    decision.fault = none ∧ decision.clearFault = false := by
  unfold closeOpenAccounting at decided
  split at decided
  · cases decided
  · split at decided
    · cases decided
    · obtain rfl := Except.ok.inj decided
      exact ⟨rfl, rfl⟩

theorem closeOpenAccounting_clears {inp : TransitionInput} {decision : Decision} {offAt : Instant}
    (resting : inp.state = .disabled ∨ inp.state = .fault)
    (decided : closeOpenAccounting inp offAt = .ok decision) : SessionEffect inp decision := by
  unfold closeOpenAccounting at decided
  split at decided
  · cases decided
  · split at decided
    · cases decided
    · obtain rfl := Except.ok.inj decided
      refine .clears rfl rfl ?_ (by simp)
      rcases resting with state | state <;> simp [state]

theorem onConfirmedRow_updates {inp : TransitionInput} {decision : Decision}
    {session : SessionContext} {atUtc : Instant} (state : inp.state = .watering)
    (held : inp.session = some session)
    (decided : onConfirmedRow inp session atUtc = .ok decision) : SessionEffect inp decision := by
  unfold onConfirmedRow at decided
  split at decided
  · cases decided
  · obtain rfl := Except.ok.inj decided
    refine .updates _ _ held rfl rfl rfl (fun opened => opened) ?_ ?_
      (fun _ => ⟨state, .inl rfl⟩)
    · simp only [List.mem_append, not_or]
      exact ⟨by simp, by split <;> simp⟩
    · simp only [List.mem_append, not_or]
      exact ⟨by simp, by split <;> simp⟩

theorem commitTermination_actions {session : SessionContext} {reason : CompletionReason}
    {fault : Option FaultCode} {defensive : Bool} :
    ∀ action ∈ (commitTermination session reason fault defensive).actions,
      isCommitAction action = true := by
  intro action member
  simp only [commitTermination, List.mem_append, List.mem_singleton] at member
  rcases member with (rfl | emitted) | rfl
  · rfl
  · split at emitted
    · cases emitted
    · rw [List.mem_singleton.mp emitted]
      rfl
  · rfl

theorem commitTermination_updates {inp : TransitionInput} {session : SessionContext}
    {reason : CompletionReason} {fault : Option FaultCode} {defensive : Bool}
    (state : inp.state = .watering) (held : inp.session = some session) :
    SessionEffect inp (commitTermination session reason fault defensive) := by
  refine .updates _ _ held rfl rfl rfl (fun opened => opened) (fun member => ?_) (fun member => ?_)
    fun _ => ⟨state, .inr ⟨by simp [commitTermination, isExecuteOff],
      .inl commitTermination_actions⟩⟩
  · cases commitTermination_actions _ member
  · cases commitTermination_actions _ member

/-- T50 goes on with the pulse that has ended. -/
theorem adoptedSoak_updates {inp : TransitionInput} {decision : Decision}
    {session : SessionContext} {runId : Option String} {unsafeFault : Option FaultCode}
    (held : inp.session = some session)
    (decided : startupPersistedSoakingRow inp session true runId unsafeFault = .ok decision) :
    SessionEffect inp decision := by
  simp only [startupPersistedSoakingRow, if_true] at decided
  split at decided
  · cases decided
  · cases decided
  · cases decided
  · obtain rfl := Except.ok.inj decided
    refine .updates _ _ held rfl rfl rfl (fun opened => opened) ?_ ?_ (by simp)
    all_goals
      simp only [List.mem_append, not_or]
      refine ⟨by simp, ?_⟩
      split
      · simp
      · split <;> simp

theorem terminatedSoak_clears {inp : TransitionInput} {decision : Decision}
    {session : SessionContext} {runId : Option String} {unsafeFault : Option FaultCode}
    (decided : startupPersistedSoakingRow inp session false runId unsafeFault = .ok decision) :
    SessionEffect inp decision := by
  simp only [startupPersistedSoakingRow, Bool.false_eq_true, if_false, Except.ok.injEq] at decided
  subst decided
  cases unsafeFault with
  | none =>
    refine .clears rfl rfl ?_ (by simp)
    simp only [Option.getD_some]
    split <;> simp
  | some fault => refine .clears rfl rfl ?_ ?_ <;> simp

theorem Row.effect {inp : TransitionInput} {decision : Decision} (row : Row inp decision) :
    SessionEffect inp decision := by
  cases row with
  -- The first rows leave the session.
  | integrityLost =>
    refine .keeps rfl rfl ?_ ?_ ?_ <;> simp [StateMachine.integrityLost]
  | configurationInvalid =>
    refine .keeps rfl rfl ?_ ?_ ?_ <;> simp [configurationInvalidRow]
  | passive stays timers _ _ _ session cleared =>
    refine .keeps session cleared ?_ ?_ ?_
    · exact fun member => by simpa [isTimerAction] using timers _ member
    · exact fun member => by simpa [isTimerAction] using timers _ member
    · rcases stays with same | same <;> simp [same]
  | slotWait => exact .keeps rfl rfl (by simp) (by simp) (by simp)
  | declined _ stays =>
    refine .keeps rfl rfl (by simp) (by simp) ?_
    rcases stays with ⟨-, rfl⟩ | ⟨-, rfl⟩ <;> simp
  -- T1, T2 and T25 begin a pulse.
  | autoStart _ event fresh granted _ _ decided =>
    exact startAutoPulse_starts ⟨event, .inr fresh⟩ granted (by simp) decided
  | nextPulse _ _ uncommitted event qualifies granted _ _ decided =>
    exact startAutoPulse_starts ⟨event, .inr (freshValid_of_postQualifies qualifies)⟩ granted
      (by rintro _ ⟨rfl⟩; exact uncommitted) decided
  | manualStart event _ _ granted decided started =>
    exact manualStart_starts ⟨by rw [event]; rfl, .inl ⟨_, event⟩⟩ granted decided started
  | disable => exact .keeps rfl rfl (by simp) (by simp) (by simp)
  | externalOn _ _ _ stays =>
    refine .keeps rfl rfl (by simp) (by simp) ?_
    rcases stays with rfl | rfl <;> simp
  | externalOff _ _ _ stays =>
    refine .keeps rfl rfl (by simp) (by simp) ?_
    rcases stays with rfl | rfl <;> simp
  | enableFault => exact .keeps rfl rfl (by simp) (by simp) (by simp)
  | enableIdle => exact .keeps rfl rfl (by simp) (by simp) (by simp)
  | closeAccounting _ resting decided => exact closeOpenAccounting_clears resting decided
  | onConfirmed state held _ decided => exact onConfirmedRow_updates state held decided
  | commit state held _ _ => exact commitTermination_updates state held
  | pulseEnd state => exact .keeps rfl rfl (by simp) (by simp) (fun _ => state)
  | refresh state held =>
    exact .updates _ _ held rfl rfl rfl (fun opened => opened) (by simp) (by simp)
      (fun _ => ⟨state, .inl rfl⟩)
  -- OFF evidence clears the session in WATERING ...
  | finalize _ _ evidence decided =>
    refine finalizeWatering_clears ?_ decided
    cases evidence <;> simp
  | recoveredOff _ _ _ decided => exact finalizeWatering_clears (by simp) decided
  -- ... or updates it, which neither opens a pulse nor asks for ON.
  | recoveryCommit state held event =>
    exact .updates _ _ held rfl rfl rfl (fun opened => opened) (by simp) (by simp)
      (fun _ => ⟨state, .inr ⟨by simp [isExecuteOff], .inr ⟨_, event⟩⟩⟩)
  | pulseOff _ held =>
    exact .updates _ _ held rfl rfl rfl (by simp [SessionContext.openPulse, closeRuntime])
      (by simp [pulseOffToSoaking]) (by simp [pulseOffToSoaking]) (by simp [pulseOffToSoaking])
  | offNotConfirmed _ held =>
    refine .updates _ _ held rfl rfl rfl (fun opened => opened) ?_ ?_ ?_ <;>
      simp [offNotConfirmedRow]
  | soakExternal =>
    refine .clears rfl rfl ?_ (by simp [finalizeSoakingExternal])
    simp only [finalizeSoakingExternal, Option.getD_some]
    split <;> simp
  | soakOffNotConfirmed _ held =>
    refine .updates _ _ held rfl rfl rfl (fun opened => opened) ?_ ?_ ?_ <;>
      simp [soakingOffNotConfirmed]
  | soakCompletion =>
    refine .clears rfl rfl ?_ (by simp [finalizeSoakingCompletion])
    simp only [finalizeSoakingCompletion, Option.getD_some]
    split <;> simp
  | soakFault =>
    refine .clears rfl rfl ?_ ?_ <;> simp [finalizeSoakingFault]
  | soakSlotWait state held =>
    exact .updates _ _ held rfl rfl rfl (fun opened => opened) (by simp) (by simp)
      (by simp [state])
  | soakInterference state held =>
    exact .updates _ _ held rfl rfl rfl (fun opened => opened) (by simp) (by simp)
      (by simp [state])
  | soakCancel _ _ _ kind =>
    refine .clears rfl rfl ?_ (by simp [finalizeSoakingCancel])
    rcases kind with ⟨-, rfl, -⟩ | ⟨rfl, -⟩ <;> simp [finalizeSoakingCancel]
  | soakPreserved state => exact .keeps rfl rfl (by simp) (by simp) (by simp)
  | soakAdopted _ held _ _ decided => exact adoptedSoak_updates held decided
  | soakTerminated _ _ _ _ decided => exact terminatedSoak_clears decided
  | faultCleared => exact .keeps rfl rfl (by simp) (by simp) (by simp)

theorem decide_effect {inp : TransitionInput} {decision : Decision}
    (decided : decide inp = .ok decision) : SessionEffect inp decision :=
  (decide_row decided).effect

/-- The outcome of an OFF operation is a no-op without a session. -/
theorem decide_session_of_off {inp : TransitionInput} {decision : Decision}
    (decided : decide inp = .ok decision) (acts : decision.noOp = false)
    (event : inp.event = .offNotConfirmed ∨ ∃ at', inp.event = .offConfirmed at') :
    ∃ session, inp.session = some session := by
  by_contra absent
  have none' : inp.session = none := by
    cases held : inp.session with
    | none => rfl
    | some session => exact absurd ⟨session, held⟩ absent
  rcases event with event | ⟨at', event⟩ <;>
  · simp only [decide, event] at decided
    cases state : inp.state <;>
      simp only [state, decideIdle, decideDisabled, decideWatering, decideSoaking, decideFault,
        event, none', Option.isSome_none, Bool.false_eq_true, if_false, reduceCtorEq,
        Except.ok.injEq] at decided <;>
      (subst decided; cases acts)

end MoistureLoop.StateMachine
