import MoistureLoop.StateMachine.EnabledFlag
import MoistureLoop.StateMachine.StoredZone

/-! # The stored enabled flag

`async_set_enabled` sets the flag in memory, and whether it is written is up to the decision
for the state it finds: a request that decides nothing writes nothing.  A session that ends
writes the flag with its end, so only the requests at rest have to. -/

open MoistureLoop.Action

namespace MoistureLoop

def Action.isPersist : Action → Bool
  | persistState _ => true
  | _ => false

/-- Applying the decision writes the zone. -/
def Decision.persists (decision : Decision) : Bool :=
  !decision.noOp && decision.actions.any Action.isPersist

/-- The locked section of the step writes the zone; a compensation writes nothing. -/
def ZoneLabel.persists : ZoneLabel → Bool
  | .decide input | .setEnabled _ input =>
    match StateMachine.decide input with
    | .error _ => false
    | .ok decision => decision.persists
  | _ => false

/-- The state holds a session that runs or soaks. -/
def ControllerState.Flows (state : ControllerState) : Prop :=
  state = .watering ∨ state = .soaking

instance (state : ControllerState) : Decidable state.Flows :=
  inferInstanceAs (Decidable (_ ∨ _))

theorem ControllerState.rests_cases {state : ControllerState} (rests : ¬ state.Flows) :
    state = .idle ∨ state = .disabled ∨ state = .fault := by
  cases state <;> simp_all [ControllerState.Flows]

namespace StateMachine

variable {inp : TransitionInput} {decision : Decision}

theorem finalizeWatering_persists {session : SessionContext} {reason : CompletionReason}
    {offAt : Instant} {extraActions : List Action}
    (decided : finalizeWatering inp session reason offAt extraActions = .ok decision) :
    decision.persists = true := by
  simp only [finalizeWatering] at decided
  split at decided
  · obtain rfl := Except.ok.inj decided
    unfold finalizeManualComplete
    cases inp.enabled <;> cases (closeRuntime session offAt reason).retainedSensorFault with
    | none => simp [Decision.persists, Action.isPersist]
    | some retained =>
      by_cases fresh : freshValid inp = true <;> simp [fresh, Decision.persists, Action.isPersist]
  · split at decided
    · cases decided
    · obtain rfl := Except.ok.inj decided
      simp [Decision.persists, Action.isPersist]

/-- A decision that leaves WATERING and SOAKING is written. -/
theorem persists_of_leaves (decided : decide inp = .ok decision) (flows : inp.state.Flows)
    (rests : ¬ (decision.newState.getD inp.state).Flows) : decision.persists = true := by
  obtain ⟨idle, disabled, fault⟩ : inp.state ≠ .idle ∧ inp.state ≠ .disabled ∧
      inp.state ≠ .fault := by
    rcases flows with state | state <;> simp [state]
  -- The rows that stay in the state or that enter WATERING or SOAKING do not leave.
  have stays (same : decision.newState = none ∨ decision.newState = some inp.state) :
      decision.persists = true := by
    rcases same with same | same <;> simp [same, flows] at rests
  have enters (same : decision.newState = some .watering ∨ decision.newState = some .soaking) :
      decision.persists = true := by
    rcases same with same | same <;> simp [same, ControllerState.Flows] at rests
  cases decide_row decided with
  | integrityLost | configurationInvalid => rfl
  | passive state => exact stays state
  | slotWait | commit | pulseEnd | recoveryCommit | soakSlotWait | soakInterference =>
    exact stays (.inl rfl)
  | declined _ state =>
    rcases state with ⟨state, -⟩ | ⟨-, rfl⟩
    · exact absurd state idle
    · exact stays (.inl rfl)
  | autoStart _ _ _ _ _ _ started | nextPulse _ _ _ _ _ _ _ _ started =>
    exact enters (.inl (startAutoPulse_newState started))
  | manualStart _ _ _ _ started opened => exact enters (.inl (manualStart_newState started opened))
  | disable _ state =>
    rcases state with state | state
    · exact absurd state idle
    · exact absurd state fault
  | externalOn _ _ state | externalOff _ _ state =>
    rcases state with state | state | state
    · exact absurd state idle
    · exact absurd state disabled
    · exact absurd state fault
  | enableFault _ state | enableIdle _ state => exact absurd state disabled
  | closeAccounting _ state =>
    rcases state with state | state
    · exact absurd state disabled
    · exact absurd state fault
  | onConfirmed _ _ _ confirmed => exact stays (.inl (onConfirmedRow_newState confirmed))
  | refresh => exact enters (.inl rfl)
  | finalize _ _ _ decided => exact finalizeWatering_persists decided
  | recoveredOff _ _ _ decided => exact finalizeWatering_persists decided
  | pulseOff | soakPreserved => exact enters (.inr rfl)
  | offNotConfirmed =>
    unfold offNotConfirmedRow
    split
    rfl
  | soakExternal | soakOffNotConfirmed | soakCompletion | soakFault | soakCancel => rfl
  | soakAdopted _ _ _ _ decided => exact enters (.inr (startupPersistedSoaking_adopted decided))
  | @soakTerminated decision session runId unsafeFault _ _ _ _ decided =>
    simp only [startupPersistedSoakingRow, Bool.false_eq_true, if_false, Except.ok.injEq] at decided
    subst decided
    cases unsafeFault <;> simp [Decision.persists, Action.isPersist]
  | faultCleared state => exact absurd state fault

theorem wateringMoisture_stays {session : SessionContext} {observation : MoistureObservation}
    (decided : wateringMoisture inp session observation = .ok decision) :
    decision.newState.getD .watering = .watering := by
  simp only [wateringMoisture] at decided
  split at decided
  · obtain rfl := Except.ok.inj decided
    rfl
  · split at decided
    · obtain rfl := Except.ok.inj decided
      rfl
    · split at decided
      · split at decided
        · cases decided
        · split at decided <;>
          · obtain rfl := Except.ok.inj decided
            rfl
      all_goals
        obtain rfl := Except.ok.inj decided
        rfl

theorem watchdogFiredRow_stays {session : SessionContext} {token : WatchdogToken}
    (decided : watchdogFiredRow inp session token = .ok decision) :
    decision.newState.getD .watering = .watering := by
  unfold watchdogFiredRow at decided
  split at decided
  · obtain rfl := Except.ok.inj decided
    rfl
  · split at decided
    · obtain rfl := Except.ok.inj decided
      rfl
    · split at decided
      · obtain rfl := Except.ok.inj decided
        rfl
      · split at decided
        · cases decided
        · split at decided <;>
          · obtain rfl := Except.ok.inj decided
            rfl

theorem watering_of_compensates {mode : SessionMode} (decided : decide inp = .ok decision)
    (watering : inp.state = .watering) (compensates : inp.event.compensates mode = true) :
    decision.newState.getD inp.state = .watering := by
  rw [watering]
  cases held : inp.session with
  | none =>
    cases event : inp.event with
    | moistureReport | watchdogFired | onConfirmTimeout | configChangedPrepare =>
      simp [decide, event, watering, decideWatering, held] at decided
    | _ => simp [event, ControllerEvent.compensates] at compensates
  | some session =>
    cases event : inp.event with
    | moistureReport observation =>
      simp only [decide, event, watering, decideWatering, held] at decided
      exact wateringMoisture_stays decided
    | watchdogFired token =>
      simp only [decide, event, watering, decideWatering, held] at decided
      exact watchdogFiredRow_stays decided
    | onConfirmTimeout | configChangedPrepare =>
      simp only [decide, event, watering, decideWatering, held] at decided
      split at decided <;>
      · obtain rfl := Except.ok.inj decided
        rfl
    | _ => simp [event, ControllerEvent.compensates] at compensates

/-- A request for the flag at rest is written where the state decides something on it: to
enable in DISABLED, and to disable in IDLE and FAULT. -/
theorem persists_of_toggle {enabled : Bool} (event : inp.event = toggleEvent enabled)
    (rests : ¬ inp.state.Flows) (asked : enabled = true ↔ inp.state = .disabled) :
    ∃ decision, decide inp = .ok decision ∧ decision.persists = true := by
  rcases ControllerState.rests_cases rests with state | state | state
  · have disabling : enabled = false := by simpa [state] using asked
    simp only [decide, event, disabling, toggleEvent, state, decideIdle, Bool.false_eq_true,
      if_false, Except.ok.injEq, exists_eq_left']
    rfl
  · have enabling : enabled = true := by simpa [state] using asked
    cases latched : inp.activeFault with
    | none | some =>
      simp only [decide, event, enabling, toggleEvent, state, decideDisabled, latched, if_true,
        Except.ok.injEq, exists_eq_left']
      rfl
  · have disabling : enabled = false := by simpa [state] using asked
    simp only [decide, event, disabling, toggleEvent, state, decideFault, Bool.false_eq_true,
      if_false, Except.ok.injEq, exists_eq_left']
    rfl

end StateMachine

/-! ## The zone and what is stored of it -/

/-- A zone with what the store holds of it and the last completed request for its flag. -/
structure DurableZone where
  zone : Zone
  stored : StoredZone
  requested : Option Bool := none
  deriving DecidableEq, Repr

/-- What can happen under a backend that keeps every write: a step of the zone, or a write of
its own. -/
inductive DurableLabel where
  | zone (label : ZoneLabel)
  | persist
  deriving DecidableEq, Repr

namespace DurableZone

/-- The verified write of the zone; a fault pair that cannot be stored has no such write. -/
def write (durable : DurableZone) : Option DurableZone :=
  match partitionControllerFaults durable.zone.activeFault durable.zone.secondaryFault with
  | .error _ => none
  | .ok faults => some { durable with stored := durable.zone.store faults }

def completes (requested : Option Bool) : ZoneLabel → Option Bool
  | .setEnabled enabled _ => some enabled
  | _ => requested

def step (durable : DurableZone) : DurableLabel → Option DurableZone
  | .zone .writeFailed => none
  | .zone label =>
    (durable.zone.step label).bind fun zone =>
      let moved := { durable with zone := zone, requested := completes durable.requested label }
      if label.persists then moved.write else some moved
  | .persist => durable.write

def system : LabelledSystem DurableZone DurableLabel := ⟨step⟩

/-- A controller that has just attached to what is stored. -/
def attached (stored : StoredZone) : DurableZone := ⟨stored.attach, stored, none⟩

/-- The request meets a state that decides something on it, or changes nothing; a compensation
that ends a soak has no flag to write. -/
def KeepsChoice (durable : DurableZone) (label : DurableLabel) (_ : DurableZone) : Prop :=
  match label with
  | .zone (.setEnabled enabled _) =>
    ¬ durable.zone.state.Flows → (enabled = true ↔ durable.zone.state = .disabled) ∨
      durable.zone.enabled = enabled
  | .zone (.compensate _) =>
    durable.zone.state = .soaking → durable.stored.enabled = durable.zone.enabled
  | _ => True

/-- At rest the stored flag is the flag of the zone, which is the one asked for last. -/
structure Durable (durable : DurableZone) : Prop where
  settled : ¬ durable.zone.state.Flows → durable.stored.enabled = durable.zone.enabled
  chosen : ∀ enabled, durable.requested = some enabled → durable.zone.enabled = enabled

variable {durable next start finish : DurableZone} {label : DurableLabel}

theorem write_cases (written : durable.write = some next) :
    next.zone = durable.zone ∧ next.requested = durable.requested ∧
      next.stored.enabled = durable.zone.enabled := by
  unfold write at written
  split at written
  · cases written
  · obtain rfl := Option.some.inj written
    exact ⟨rfl, rfl, rfl⟩

theorem enabled_of_step {zone next : Zone} {label : ZoneLabel}
    (stepped : zone.step label = some next) :
    next.enabled = (completes none label).getD zone.enabled := by
  cases Zone.step_move stepped with
  | adopts | ignores | commits | marks | commands | fails => rfl
  | @toggles enabled input feeds event =>
    rcases Zone.decideWith_cases { zone with enabled := enabled } input Zone.adopt with
      same | ⟨decision, -, same⟩ <;>
    · rw [same]
      rfl

/-- A step that writes nothing leaves the zone flowing, or has nothing new to write. -/
theorem settled_of_step {zone next : Zone} {label : ZoneLabel} {stored : Bool}
    (stepped : zone.step label = some next) (succeeds : label ≠ .writeFailed)
    (unwritten : label.persists = false)
    (settled : ¬ zone.state.Flows → stored = zone.enabled)
    (asked : ∀ enabled input, label = .setEnabled enabled input → ¬ zone.state.Flows →
      (enabled = true ↔ zone.state = .disabled) ∨ zone.enabled = enabled)
    (compensated : ∀ input, label = .compensate input → zone.state = .soaking →
      stored = zone.enabled) :
    ¬ next.state.Flows → stored = next.enabled := by
  intro rests
  have moves := Zone.step_move stepped
  cases moves with
  | @adopts input decision feeds other decided =>
    simp only [ZoneLabel.persists, decided] at unwritten
    refine settled fun flows => ?_
    have written := StateMachine.persists_of_leaves decided (by rw [feeds.1]; exact flows)
      (by rw [feeds.1]; exact rests)
    simp [written] at unwritten
  | ignores => exact settled rests
  | @toggles enabled input feeds event =>
    have state : input.state = zone.state := feeds.1
    have enabled' : ({ zone with enabled := enabled }.decideWith input Zone.adopt).enabled =
        enabled := enabled_of_step stepped
    by_cases flows : zone.state.Flows
    · -- A decision that leaves a flow would have been written.
      rcases Zone.decideWith_cases { zone with enabled := enabled } input Zone.adopt with
        same | ⟨decision, decided, same⟩
      · rw [same] at rests
        exact absurd flows rests
      · rw [same] at rests
        have written := StateMachine.persists_of_leaves decided (by rw [state]; exact flows)
          (by rw [state]; exact rests)
        simp [ZoneLabel.persists, decided, written] at unwritten
    · rw [enabled']
      rcases asked enabled input rfl flows with asked | same
      · obtain ⟨decision, decided, written⟩ := StateMachine.persists_of_toggle event
          (by rw [state]; exact flows) (by rw [state]; exact asked)
        simp [ZoneLabel.persists, decided, written] at unwritten
      · exact (settled flows).trans same
  | @commits input session decision held feeds compensates decided =>
    have state : input.state = zone.state := feeds.1
    by_cases soaking : zone.state = .soaking
    · exact compensated input rfl soaking
    · refine settled fun flows => ?_
      have watering : zone.state = .watering := flows.resolve_right soaking
      have stays := StateMachine.watering_of_compensates decided (state.trans watering) compensates
      rw [state] at stays
      exact rests (.inl stays)
  | marks => exact settled rests
  | commands => exact settled rests
  | fails => exact absurd rfl succeeds

theorem Durable.step (durable' : durable.Durable) (stepped : durable.step label = some next)
    (keeps : KeepsChoice durable label next) : next.Durable := by
  obtain ⟨settled, chosen⟩ := durable'
  cases label with
  | persist =>
    obtain ⟨zone, requested, stored⟩ := write_cases stepped
    exact ⟨fun _ => by rw [stored, zone], by rw [zone, requested]; exact chosen⟩
  | zone label =>
    by_cases failed : label = .writeFailed
    · subst failed
      cases stepped
    have unfolded : durable.step (.zone label) = (durable.zone.step label).bind fun zone =>
        let moved := { durable with zone := zone, requested := completes durable.requested label }
        if label.persists then moved.write else some moved := by
      cases label <;> first | rfl | exact absurd rfl failed
    rw [unfolded] at stepped
    obtain ⟨zone, moved, executed⟩ := Option.bind_eq_some_iff.mp stepped
    have chosen' : ∀ enabled, completes durable.requested label = some enabled →
        zone.enabled = enabled := by
      intro enabled asked
      rw [enabled_of_step moved]
      cases label with
      | setEnabled => exact Option.some.inj asked
      | _ => exact chosen enabled asked
    simp only at executed
    split at executed
    · obtain ⟨written, requested, stored⟩ := write_cases executed
      exact ⟨fun _ => by rw [stored, written], by rw [written, requested]; exact chosen'⟩
    · rename_i unwritten
      obtain rfl := Option.some.inj executed
      refine ⟨settled_of_step moved failed (by simpa using unwritten) settled ?_ ?_, chosen'⟩
      · rintro enabled input rfl
        exact keeps
      · rintro input rfl
        exact keeps

/-- In a run whose requests all find something to decide, or nothing to change, the flag that
is stored at rest is the one that was asked for last, and a restart restores it. -/
theorem durable_of_run {stored : StoredZone} {enabled : Bool}
    (reached : system.Run KeepsChoice (attached stored) finish)
    (rests : ¬ finish.zone.state.Flows) (asked : finish.requested = some enabled) :
    finish.stored.enabled = enabled ∧ finish.stored.attach.enabled = enabled := by
  have durable : finish.Durable := reached.preserves ⟨fun _ => rfl, by simp [attached]⟩
    fun _ _ _ durable stepped keeps => durable.step stepped keeps
  have same : finish.stored.enabled = enabled :=
    (durable.settled rests).trans (durable.chosen enabled asked)
  exact ⟨same, same⟩

/-! ## A request that is forgotten -/

def storedAtRest : StoredZone := { state := .idle, enabled := true }

/-- What the zone shows for an event, or for a request for its flag. -/
def sampleLabel (durable : DurableZone) (event : Bool ⊕ ControllerEvent) : DurableLabel :=
  .zone (durable.zone.sampleLabel event)

/-- A sequence of requests and events, each shown the zone as it then is. -/
def sampleRun (durable : DurableZone) : List (Bool ⊕ ControllerEvent) → Option DurableZone
  | [] => some durable
  | event :: rest => (durable.step (durable.sampleLabel event)).bind (sampleRun · rest)

theorem run_of_sampleRun {events : List (Bool ⊕ ControllerEvent)}
    (executed : start.sampleRun events = some finish) :
    system.Run (fun _ _ _ => True) start finish := by
  induction events generalizing start with
  | nil =>
    obtain rfl := Option.some.inj executed
    exact .refl
  | cons event rest inductionHypothesis =>
    obtain ⟨next, stepped, executed⟩ := Option.bind_eq_some_iff.mp executed
    have stepped : system.step start (start.sampleLabel event) = some next := stepped
    exact .head stepped trivial (inductionHypothesis executed)

/-- A zone at rest is disabled, and stays so over a restart. -/
theorem durable_of_run_disabled :
    ∃ finish, (attached storedAtRest).step ((attached storedAtRest).sampleLabel (.inl false)) =
        some finish ∧ finish.requested = some false ∧ finish.stored.attach.enabled = false := by
  obtain ⟨finish, stepped, ends⟩ := (Option.any_eq_true _ _).mp
    (show (((attached storedAtRest).step
      ((attached storedAtRest).sampleLabel (.inl false))).any fun finish =>
        finish.requested = some false && decide (¬ finish.zone.state.Flows)) = true by
          decide +kernel)
  simp only [Bool.and_eq_true, decide_eq_true_eq] at ends
  have moved : system.step (attached storedAtRest)
      ((attached storedAtRest).sampleLabel (.inl false)) = some finish := stepped
  have keeps : KeepsChoice (attached storedAtRest)
      ((attached storedAtRest).sampleLabel (.inl false)) finish :=
    fun _ => .inl (by simp [attached, storedAtRest, StoredZone.attach])
  exact ⟨finish, stepped, ends.1, (durable_of_run (.step _ .refl moved keeps) ends.2 ends.1).2⟩

/-- A session that was committed to ZONE_DISABLED ends in FAULT; enabling the zone there
changes the flag in memory only. -/
theorem not_durable_enabled_in_fault :
    ¬ ∀ (stored : StoredZone) (finish : DurableZone) (enabled : Bool),
      system.Run (fun _ _ _ => True) (attached stored) finish → ¬ finish.zone.state.Flows →
      finish.requested = some enabled → finish.stored.enabled = enabled := by
  intro claimed
  obtain ⟨finish, executed, ends⟩ := (Option.any_eq_true _ _).mp
    (show (((attached storedAtRest).sampleRun [.inr (.manualStartRequested (some 60)), .inl false,
      .inr .offNotConfirmed, .inl true]).any fun finish =>
        decide (finish.zone.state = .fault) && finish.requested = some true &&
          !finish.stored.enabled) = true by decide +kernel)
  simp only [Bool.and_eq_true, decide_eq_true_eq, Bool.not_eq_true'] at ends
  obtain ⟨⟨fault, asked⟩, stored⟩ := ends
  have kept := claimed storedAtRest finish true (run_of_sampleRun executed)
    (by simp [fault, ControllerState.Flows]) asked
  simp [stored] at kept

end DurableZone

end MoistureLoop
