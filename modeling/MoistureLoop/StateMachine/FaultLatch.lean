import MoistureLoop.StateMachine.FaultPair

/-! # Latched faults

A fault that has to be acknowledged stays in the one fault slot of its zone until it is, unless
a decision sets a fault over it that need not be: the slot is shared with the configuration and
the sensor, and no row looks at what it overwrites. -/

namespace MoistureLoop

def requiresAck (fault : Option FaultCode) : Bool := fault.any FaultCode.requiresUserAck

@[simp] theorem requiresAck_none : requiresAck none = false := rfl

@[simp] theorem requiresAck_some (fault : FaultCode) :
    requiresAck (some fault) = fault.requiresUserAck := rfl

theorem requiresAck_or {fault activeFault : Option FaultCode}
    (latched : requiresAck activeFault = true)
    (kept : fault = none ∨ requiresAck fault = true) : requiresAck (fault.or activeFault) = true := by
  rcases kept with rfl | kept
  · exact latched
  · cases fault with
    | none => simp at kept
    | some fault => exact kept

theorem isActuatorFault_of_requiresUserAck {fault : FaultCode}
    (required : fault.requiresUserAck = true) : fault.isActuatorFault = true := by
  cases fault <;> first | rfl | cases required

namespace StateMachine

/-- The decision accepts an operator's acknowledgement (T43). -/
def acknowledges (inp : TransitionInput) : Bool :=
  match inp.event, inp.state, inp.activeFault with
  | .clearFaultRequested, .fault, some fault =>
    !fault.requiresReconfigure && faultResolved inp fault
  | _, _, _ => false

/-- The input sets a fault that need not be acknowledged, or frees the slot. -/
inductive Overwrites (inp : TransitionInput) : Prop where
  | latched {fault : FaultCode} : LatchesFault inp fault → fault.requiresUserAck = false →
      Overwrites inp
  | soaking {session : SessionContext} : inp.state = .soaking → inp.session = some session →
      session.pendingTerminationReason = none → SoakFaults inp session .actuatorUnavailable →
      Overwrites inp
  /-- A manual session ends with the sensor fault it retained resolved (T9). -/
  | resolved {session : SessionContext} : inp.state = .watering → inp.session = some session →
      session.retainedSensorFault.isSome = true → freshValid inp = true →
      Finalizes inp session .manualComplete → Overwrites inp

/-- A fault that has to be acknowledged is not overwritten by one that need not be. -/
def KeepsLatch (inp : TransitionInput) : Prop :=
  requiresAck inp.activeFault = true → ¬ Overwrites inp

variable {inp : TransitionInput} {decision : Decision} {fault : FaultCode}

/-- An acknowledgement of such a fault is accepted only while the actuator is proven OFF. -/
theorem provenOff_of_acknowledges (accepted : acknowledges inp = true)
    (latched : requiresAck inp.activeFault = true) : inp.actuator.provenOff = true := by
  unfold acknowledges at accepted
  split at accepted
  · rename_i fault _ _ held
    have operated : fault.isSensorOnly = false := by
      cases fault <;> first | rfl | simp [held, FaultCode.requiresUserAck] at latched
    simp only [faultResolved, operated, Bool.false_eq_true, if_false, actuatorReady,
      Bool.and_eq_true] at accepted
    exact accepted.2.2
  · cases accepted

theorem startAutoPulse_clearFault {session : Option SessionContext}
    (decided : startAutoPulse inp session = .ok decision) : decision.clearFault = false := by
  unfold startAutoPulse at decided
  split at decided
  · cases decided
  · split at decided
    · split at decided
      · cases decided
      · obtain rfl := Except.ok.inj decided
        rfl
    · obtain rfl := Except.ok.inj decided
      rfl

theorem onConfirmedRow_frame {session : SessionContext} {atUtc : Instant}
    (decided : onConfirmedRow inp session atUtc = .ok decision) :
    decision.fault = none ∧ decision.clearFault = false := by
  unfold onConfirmedRow at decided
  split at decided
  · cases decided
  · obtain rfl := Except.ok.inj decided
    exact ⟨rfl, rfl⟩

theorem startupPersistedSoakingRow_clearFault {session : SessionContext} {trusted : Bool}
    {runId : Option String} {unsafeFault : Option FaultCode}
    (decided : startupPersistedSoakingRow inp session trusted runId unsafeFault = .ok decision) :
    decision.clearFault = false := by
  unfold startupPersistedSoakingRow at decided
  split at decided
  · split at decided
    · cases decided
    · cases decided
    · cases decided
    · obtain rfl := Except.ok.inj decided
      rfl
  · obtain rfl := Except.ok.inj decided
    rfl

theorem finalizeWatering_fault {session : SessionContext} {reason : CompletionReason}
    {offAt : Instant} {extraActions : List Action} (other : fault.isZoneFault = false)
    (latched : decision.fault = some fault)
    (decided : finalizeWatering inp session reason offAt extraActions = .ok decision) :
    inp.activeFault = some fault := by
  have unretained : session.retainedSensorFault.map Subtype.val ≠ some fault := by
    intro kept
    rw [zoneFault_of_retained kept] at other
    cases other
  simp only [finalizeWatering] at decided
  split at decided
  · obtain rfl := Except.ok.inj decided
    unfold finalizeManualComplete at latched
    cases kept : session.retainedSensorFault with
    | none => simp [kept] at latched
    | some retained =>
      cases fresh : freshValid inp with
      | true => simp [kept, fresh] at latched
      | false =>
        simp only [retainedSensorFault_closeRuntime, kept, fresh, Bool.false_eq_true, if_false,
          Option.some.injEq] at latched
        exact absurd (by simp [kept, latched]) unretained
  · split at decided
    · cases decided
    · obtain rfl := Except.ok.inj decided
      obtain active | ⟨kept, -⟩ := postDestination_fault latched
      · exact active
      · exact absurd kept unretained

/-- A decision that sets a fault which need not be acknowledged over another one has an input
that shows it. -/
theorem overwrites_of_decide (unlatched : fault.requiresUserAck = false)
    (latched : decision.fault = some fault) (decided : decide inp = .ok decision) :
    inp.activeFault = some fault ∨ Overwrites inp := by
  cases zonal : fault.isZoneFault with
  | true =>
    -- A fault of the zone: the second slot has the same cases.
    obtain active | anew := (decide_pair decided).latches fault zonal latched
    · exact .inl active
    · exact .inr (.latched anew unlatched)
  | false =>
    cases decide_row decided with
    -- These faults have to be acknowledged themselves.
    | integrityLost | offNotConfirmed | soakOffNotConfirmed =>
      obtain rfl := Option.some.inj latched
      cases unlatched
    | configurationInvalid =>
      obtain rfl := Option.some.inj latched
      cases zonal
    | passive _ _ none' =>
      rw [none'] at latched
      cases latched
    | slotWait | declined | disable | externalOn | externalOff | enableIdle | pulseEnd | refresh
    | recoveryCommit | pulseOff | soakExternal | soakCompletion | soakSlotWait | soakInterference
    | soakCancel | soakPreserved | faultCleared => cases latched
    | autoStart _ _ _ _ _ _ started | nextPulse _ _ _ _ _ _ _ _ started =>
      rw [(startAutoPulse_faults started).1] at latched
      cases latched
    | manualStart _ _ _ _ started =>
      rw [(manualStart_faults started).1] at latched
      cases latched
    | enableFault _ _ active => exact .inl (active.trans latched)
    | closeAccounting _ _ closed =>
      rw [(closeOpenAccounting_frame closed).1] at latched
      cases latched
    | onConfirmed _ _ _ confirmed =>
      rw [(onConfirmedRow_frame confirmed).1] at latched
      cases latched
    -- Only the commit, the soak and the restart set another fault of the actuator.
    | commit watering held uncommitted trigger =>
      simp only [commitTermination] at latched
      subst latched
      exact .inr (.latched (.watering watering held uncommitted trigger) unlatched)
    | finalize _ _ _ finalized | recoveredOff _ _ _ finalized =>
      exact .inl (finalizeWatering_fault zonal latched finalized)
    | soakFault recheck soaking held uncommitted kind =>
      have shown := decide_soakFaults soaking held uncommitted latched decided
      obtain ⟨-, sensor⟩ | ⟨-, rfl⟩ := kind
      · obtain rfl := Option.some.inj latched
        rw [FaultCode.isZoneFault_of_isSensorOnly sensor] at zonal
        cases zonal
      · obtain rfl := Option.some.inj latched
        exact .inr (.soaking soaking held uncommitted shown)
    | soakAdopted _ _ _ _ adopted =>
      simp only [startupPersistedSoakingRow, if_true] at adopted
      split at adopted
      · cases adopted
      · cases adopted
      · cases adopted
      · obtain rfl := Except.ok.inj adopted
        cases latched
    | soakTerminated soaking held uncommitted event terminated =>
      simp only [startupPersistedSoakingRow, Bool.false_eq_true, if_false,
        Except.ok.injEq] at terminated
      subst terminated
      simp only at latched
      subst latched
      exact .inr (.latched (.restored soaking held uncommitted event) unlatched)

/-- `POST(fault)` clears no fault but the one the session retained. -/
theorem postDestination_clearFault {closed : SessionContext} {reason : CompletionReason}
    (latched : requiresAck inp.activeFault = true) :
    (postDestination inp closed reason).2.2.2 = false := by
  have other : inp.activeFault ≠ closed.retainedSensorFault.map Subtype.val := by
    intro same
    cases active : inp.activeFault with
    | none => simp [active] at latched
    | some fault =>
      have zonal := zoneFault_of_retained (same.symm.trans active)
      rw [active] at latched
      have operated := isActuatorFault_of_requiresUserAck latched
      rw [FaultCode.isZoneFault_eq_not_isActuatorFault, operated] at zonal
      cases zonal
  unfold postDestination
  split
  · rfl
  · split
    · rfl
    · split
      · rfl
      · cases active : inp.activeFault with
        | none => simp [active] at latched
        | some fault =>
          rw [active] at other
          simp only [ne_eq, other, not_false_eq_true, if_true]

/-- A session that is finalized over such a fault clears it only as T9. -/
theorem finalizeWatering_clearFault {session : SessionContext} {reason : CompletionReason}
    {offAt : Instant} {extraActions : List Action} (latched : requiresAck inp.activeFault = true)
    (cleared : decision.clearFault = true)
    (decided : finalizeWatering inp session reason offAt extraActions = .ok decision) :
    reason = .manualComplete ∧ session.retainedSensorFault.isSome = true ∧
      freshValid inp = true := by
  simp only [finalizeWatering] at decided
  split at decided
  · rename_i manual
    obtain rfl := Except.ok.inj decided
    unfold finalizeManualComplete at cleared
    cases kept : session.retainedSensorFault with
    | none => simp [kept] at cleared
    | some retained =>
      cases fresh : freshValid inp with
      | true => exact ⟨manual, rfl, rfl⟩
      | false => simp [kept, fresh] at cleared
  · split at decided
    · cases decided
    · obtain rfl := Except.ok.inj decided
      simp only [postDestination_clearFault latched] at cleared
      cases cleared

/-- A decision clears a fault that has to be acknowledged only when it is. -/
theorem acknowledges_of_decide (keeps : KeepsLatch inp)
    (latched : requiresAck inp.activeFault = true) (cleared : decision.clearFault = true)
    (decided : decide inp = .ok decision) : acknowledges inp = true := by
  have kept : ∀ {result : Decision}, decision = result → result.clearFault = false → False := by
    rintro result rfl uncleared
    rw [cleared] at uncleared
    cases uncleared
  cases decide_row decided with
  | @faultCleared row fault state held way resolved =>
    rw [held] at latched
    obtain ⟨-, clears, -⟩ | ⟨-, event, reconfigure⟩ := way
    · cases fault <;> first | exact absurd clears (by decide) | exact absurd latched (by decide)
    · simp [acknowledges, event, state, held, reconfigure, resolved]
  | finalize watering held evidence finalized =>
    obtain ⟨rfl, retained, fresh⟩ := finalizeWatering_clearFault latched cleared finalized
    exact absurd (.resolved watering held retained fresh (.inl ⟨_, _, evidence⟩)) (keeps latched)
  | recoveredOff _ _ _ finalized =>
    obtain ⟨manual, -⟩ := finalizeWatering_clearFault latched cleared finalized
    cases manual
  | passive _ _ _ _ uncleared => exact (kept rfl uncleared).elim
  | autoStart _ _ _ _ _ _ started | nextPulse _ _ _ _ _ _ _ _ started =>
    exact (kept rfl (startAutoPulse_clearFault started)).elim
  | manualStart _ _ _ _ started => exact (kept rfl (manualStart_clearFault started)).elim
  | closeAccounting _ _ closed => exact (kept rfl (closeOpenAccounting_frame closed).2).elim
  | onConfirmed _ _ _ confirmed => exact (kept rfl (onConfirmedRow_frame confirmed).2).elim
  | soakAdopted _ _ _ _ restored | soakTerminated _ _ _ _ restored =>
    exact (kept rfl (startupPersistedSoakingRow_clearFault restored)).elim
  | _ => exact (kept rfl rfl).elim

theorem requiresAck_of_decide (keeps : KeepsLatch inp) (latched : requiresAck inp.activeFault = true)
    (decided : decide inp = .ok decision) :
    decision.fault = none ∨ requiresAck decision.fault = true := by
  cases set : decision.fault with
  | none => exact .inl rfl
  | some fault =>
    right
    by_contra free
    have free : fault.requiresUserAck = false := by simpa using free
    obtain active | overwrites := overwrites_of_decide free set decided
    · rw [active, requiresAck_some, free] at latched
      cases latched
    · exact keeps latched overwrites

end StateMachine

/-! ## The steps of the zone -/

namespace Zone

open StateMachine (KeepsLatch acknowledges)

variable {zone next : Zone} {input : TransitionInput} {decision : Decision} {label : ZoneLabel}

def acceptsAck : ZoneLabel → Bool
  | .decide input => acknowledges input && input.actuator.provenOff
  | _ => false

def KeepsDecision : ZoneLabel → Prop
  | .decide input | .setEnabled _ input | .compensate input => KeepsLatch input
  | _ => True

theorem requiresAck_commit (feeds : zone.Feeds input) (keeps : KeepsLatch input)
    (latched : requiresAck zone.activeFault = true)
    (decided : StateMachine.decide input = .ok decision) :
    requiresAck (zone.commit decision).activeFault = true := by
  obtain ⟨-, -, -, shown, -⟩ := feeds
  exact requiresAck_or latched
    (StateMachine.requiresAck_of_decide keeps (shown ▸ latched) decided)

theorem requiresAck_adopt (feeds : zone.Feeds input) (keeps : KeepsLatch input)
    (latched : requiresAck zone.activeFault = true)
    (refused : (acknowledges input && input.actuator.provenOff) = false)
    (decided : StateMachine.decide input = .ok decision) :
    requiresAck (zone.adopt decision).activeFault = true := by
  have shown : requiresAck input.activeFault = true := by
    obtain ⟨-, -, -, shown, -⟩ := feeds
    exact shown ▸ latched
  have uncleared : decision.clearFault = false := by
    refine eq_false_of_ne_true fun cleared => ?_
    have accepted := StateMachine.acknowledges_of_decide keeps shown cleared decided
    simp [accepted, StateMachine.provenOff_of_acknowledges accepted shown] at refused
  simpa [Zone.adopt, Zone.commit, uncleared] using requiresAck_commit feeds keeps latched decided

theorem requiresAck_decideWith {goOn : Zone → Decision → Zone}
    (latched : requiresAck zone.activeFault = true)
    (goesOn : ∀ decision, StateMachine.decide input = .ok decision →
      requiresAck (goOn zone decision).activeFault = true) :
    requiresAck (zone.decideWith input goOn).activeFault = true := by
  obtain same | ⟨decision, decided, same⟩ := zone.decideWith_cases input goOn
  · rw [same]
    exact latched
  · rw [same]
    exact goesOn decision decided

/-- A step that accepts no acknowledgement keeps a fault that has to be acknowledged. -/
theorem requiresAck_step (stepped : zone.step label = some next) (keeps : KeepsDecision label)
    (latched : requiresAck zone.activeFault = true) (refused : acceptsAck label = false) :
    requiresAck next.activeFault = true := by
  cases step_move stepped with
  | adopts feeds _ decided => exact requiresAck_adopt feeds keeps latched refused decided
  | ignores => exact latched
  | @toggles enabled input feeds event =>
    refine requiresAck_decideWith latched fun decision decided => ?_
    refine requiresAck_adopt feeds keeps latched ?_ decided
    cases enabled <;> simp [acknowledges, event, toggleEvent]
  | commits _ feeds _ decided => exact requiresAck_commit feeds keeps latched decided
  | marks => exact latched
  | commands => exact latched
  | fails => rfl

def SecondaryZonal (zone : Zone) : Prop :=
  ∀ fault, zone.secondaryFault = some fault → fault.isZoneFault = true

theorem SecondaryZonal.commit (zonal : zone.SecondaryZonal)
    (decided : StateMachine.decide input = .ok decision) :
    (zone.commit decision).SecondaryZonal := by
  intro fault held
  obtain new | ⟨-, old⟩ := Option.or_eq_some_iff.mp held
  · exact ((StateMachine.decide_pair decided).retains fault new).1
  · exact zonal fault old

theorem SecondaryZonal.step (zonal : zone.SecondaryZonal) (stepped : zone.step label = some next) :
    next.SecondaryZonal := by
  cases step_move stepped with
  | adopts _ _ decided => exact zonal.commit decided
  | ignores => exact zonal
  | @toggles enabled input =>
    obtain same | ⟨decision, decided, same⟩ :=
      { zone with enabled := enabled }.decideWith_cases input adopt
    · rw [same]
      exact zonal
    · rw [same]
      exact zonal.commit decided
  | commits _ _ _ decided => exact zonal.commit decided
  | marks | commands | fails => exact zonal

end Zone

end MoistureLoop
