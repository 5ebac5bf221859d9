import MoistureLoop.StateMachine.Committed
import MoistureLoop.Foundations.Guarded

/-! # The decided state of a zone

What decisions read and write of a zone: its state and flag, its session and its faults.
A run takes one decision after another, on whatever the environment shows; deciding and
adopting happen without an `await` in between, so that no other decision interleaves.
Every step of a controller is made of these steps. -/

namespace MoistureLoop

structure Zone where
  state : ControllerState
  enabled : Bool
  session : Option SessionContext := none
  activeFault : Option FaultCode := none
  secondaryFault : Option FaultCode := none
  deriving DecidableEq, Repr

/-- The requests that `async_set_enabled` decides. -/
def ControllerEvent.isToggle : ControllerEvent → Bool
  | .enableRequested | .disableRequested => true
  | _ => false

def toggleEvent (enabled : Bool) : ControllerEvent :=
  if enabled then .enableRequested else .disableRequested

def ControllerEvent.compensates (mode : SessionMode) : ControllerEvent → Bool
  | .configChangedPrepare | .onConfirmTimeout | .watchdogFired _ => true
  | .moistureReport _ => mode = .auto
  | _ => false

/-- What can happen to the decided state: a decision on some input, a request that first
sets the flag, the synchronous commit of a compensated ON, the record of a possible
command, and a failed write. -/
inductive ZoneLabel where
  | decide (input : TransitionInput)
  | setEnabled (enabled : Bool) (input : TransitionInput)
  | compensate (input : TransitionInput)
  | commanded (sessionId : String) (atUtc : Instant)
  | writeFailed
  deriving DecidableEq, Repr

namespace Zone

def Feeds (zone : Zone) (input : TransitionInput) : Prop :=
  input.state = zone.state ∧ input.enabled = zone.enabled ∧ input.session = zone.session ∧
    input.activeFault = zone.activeFault ∧ input.secondaryFault = zone.secondaryFault

instance (zone : Zone) (input : TransitionInput) : Decidable (zone.Feeds input) :=
  inferInstanceAs (Decidable (_ ∧ _ ∧ _ ∧ _ ∧ _))

/-- The state fields a decision writes. -/
def adopt (zone : Zone) (decision : Decision) : Zone :=
  { zone with
    state := decision.newState.getD zone.state
    session := if decision.clearSession then none else decision.session.or zone.session
    activeFault := if decision.clearFault then none else decision.fault.or zone.activeFault
    secondaryFault := decision.secondaryFault.or zone.secondaryFault }

/-- The fields a compensation writes: it clears neither the session nor a fault. -/
def commit (zone : Zone) (decision : Decision) : Zone :=
  { zone with
    state := decision.newState.getD zone.state
    session := decision.session.or zone.session
    activeFault := decision.fault.or zone.activeFault
    secondaryFault := decision.secondaryFault.or zone.secondaryFault }

/-- Decide, and go on with what the decision leaves; a raise and a no-op leave the zone. -/
def decideWith (zone : Zone) (input : TransitionInput) (goOn : Zone → Decision → Zone) : Zone :=
  match StateMachine.decide input with
  | .error _ => zone
  | .ok decision => if decision.noOp then zone else goOn zone decision

/-- The runtime of the session is an estimate from now on. -/
def markEstimated (zone : Zone) : Zone :=
  { zone with session := zone.session.map fun session =>
      if session.runtimeEstimated then session
      else { session with
        runtimeEstimated := true
        runtimeEstimationReason := .offUnconfirmed } }

def recordCommand (zone : Zone) (sessionId : String) (atUtc : Instant) : Zone :=
  { zone with session := zone.session.map fun session =>
      if session.sessionId = sessionId then
        { session with pulseCommandedAtUtc := session.pulseCommandedAtUtc.or (some atUtc) }
      else session }

def failWrite (zone : Zone) : Zone :=
  { zone with
    state := .fault
    session := zone.session.map fun session => { session with
      pendingTerminationReason :=
        session.pendingTerminationReason.or (some .actuatorFault) }
    activeFault := some .restoredFromUnsafeState }

def step (zone : Zone) : ZoneLabel → Option Zone
  | .decide input =>
    if zone.Feeds input ∧ input.event.isToggle = false then some (zone.decideWith input adopt)
    else none
  | .setEnabled enabled input =>
    let toggled := { zone with enabled := enabled }
    if toggled.Feeds input ∧ input.event = toggleEvent enabled then
      some (toggled.decideWith input adopt)
    else none
  | .compensate input =>
    match zone.session with
    | none => none
    | some session =>
      if zone.markEstimated.Feeds input ∧ input.event.compensates session.mode = true then
        some (zone.markEstimated.decideWith input commit)
      else none
  | .commanded sessionId atUtc => some (zone.recordCommand sessionId atUtc)
  | .writeFailed => some zone.failWrite

def system : LabelledSystem Zone ZoneLabel := ⟨step⟩

/-! ## What a step is -/

/-- The steps of a zone, with the decision where one is adopted. -/
inductive Move (zone : Zone) : ZoneLabel → Zone → Prop where
  | adopts {input : TransitionInput} {decision : Decision} : zone.Feeds input →
      input.event.isToggle = false → StateMachine.decide input = .ok decision →
      Move zone (.decide input) (zone.adopt decision)
  | ignores {input : TransitionInput} : Move zone (.decide input) zone
  | toggles {enabled : Bool} {input : TransitionInput} :
      { zone with enabled := enabled }.Feeds input → input.event = toggleEvent enabled →
      Move zone (.setEnabled enabled input) ({ zone with enabled := enabled }.decideWith input adopt)
  | commits {input : TransitionInput} {session : SessionContext} {decision : Decision} :
      zone.session = some session → zone.markEstimated.Feeds input →
      input.event.compensates session.mode = true → StateMachine.decide input = .ok decision →
      Move zone (.compensate input) (zone.markEstimated.commit decision)
  | marks {input : TransitionInput} : Move zone (.compensate input) zone.markEstimated
  | commands (sessionId : String) (atUtc : Instant) :
      Move zone (.commanded sessionId atUtc) (zone.recordCommand sessionId atUtc)
  | fails : Move zone .writeFailed zone.failWrite

theorem decideWith_cases (zone : Zone) (input : TransitionInput)
    (goOn : Zone → Decision → Zone) :
    zone.decideWith input goOn = zone ∨ ∃ decision, StateMachine.decide input = .ok decision ∧
      zone.decideWith input goOn = goOn zone decision := by
  unfold decideWith
  cases StateMachine.decide input with
  | error err => exact .inl rfl
  | ok decision =>
    simp only
    split
    · exact .inl rfl
    · exact .inr ⟨decision, rfl, rfl⟩

theorem step_move {zone next : Zone} {label : ZoneLabel} (stepped : zone.step label = some next) :
    Move zone label next := by
  cases label with
  | decide input =>
    simp only [step, Option.ite_none_right_eq_some, Option.some.injEq] at stepped
    obtain ⟨⟨feeds, other⟩, rfl⟩ := stepped
    rcases zone.decideWith_cases input adopt with same | ⟨decision, decided, same⟩
    · rw [same]
      exact .ignores
    · rw [same]
      exact .adopts feeds other decided
  | setEnabled enabled input =>
    simp only [step, Option.ite_none_right_eq_some, Option.some.injEq] at stepped
    obtain ⟨⟨feeds, event⟩, rfl⟩ := stepped
    exact .toggles feeds event
  | compensate input =>
    simp only [step] at stepped
    split at stepped
    · cases stepped
    · rename_i session held
      simp only [Option.ite_none_right_eq_some, Option.some.injEq] at stepped
      obtain ⟨⟨feeds, event⟩, rfl⟩ := stepped
      rcases zone.markEstimated.decideWith_cases input commit with same | ⟨decision, decided, same⟩
      · rw [same]
        exact .marks
      · rw [same]
        exact .commits held feeds event decided
  | commanded sessionId atUtc =>
    obtain rfl := Option.some.inj stepped
    exact .commands sessionId atUtc
  | writeFailed =>
    obtain rfl := Option.some.inj stepped
    exact .fails

/-! ## A sample input -/

def atRest : Zone := { state := .idle, enabled := true }

/-- What a zone shows for an event, its slot granted and its switch off. -/
def sampleInput (zone : Zone) (event : ControllerEvent) : TransitionInput where
  nowUtc := 100
  config := sampleConfig "sensor.soil" "switch.a"
  state := zone.state
  enabled := zone.enabled
  session := zone.session
  activeFault := zone.activeFault
  secondaryFault := zone.secondaryFault
  observation := ⟨some 10, .valid, some 100⟩
  dailyRuntimeS := 0
  lastSessionEndUtc := none
  actuator := ⟨true, true, false, Bool.and_false true⟩
  resource := ⟨true, true⟩
  armedWatchdog := none
  event := event
  newSessionIdentity := some ⟨"session", "run", "fingerprint"⟩

/-- A request for the flag, or an event, shown the zone as it is. -/
def sampleLabel (zone : Zone) : Bool ⊕ ControllerEvent → ZoneLabel
  | .inl enabled =>
    .setEnabled enabled ({ zone with enabled := enabled }.sampleInput (toggleEvent enabled))
  | .inr event => .decide (zone.sampleInput event)

/-- A sequence of requests and events, each shown the zone as it then is. -/
def sampleRun (zone : Zone) : List (Bool ⊕ ControllerEvent) → Option Zone
  | [] => some zone
  | event :: rest => (zone.step (zone.sampleLabel event)).bind (sampleRun · rest)

theorem run_of_sampleRun {zone finish : Zone} {events : List (Bool ⊕ ControllerEvent)}
    (executed : zone.sampleRun events = some finish) :
    system.Run (fun _ _ _ => True) zone finish := by
  induction events generalizing zone with
  | nil =>
    obtain rfl := Option.some.inj executed
    exact .refl
  | cons event rest inductionHypothesis =>
    obtain ⟨next, stepped, executed⟩ := Option.bind_eq_some_iff.mp executed
    have stepped : system.step zone (zone.sampleLabel event) = some next := stepped
    exact .head stepped trivial (inductionHypothesis executed)

def sampleRunWhile (permits : ZoneLabel → Bool) (zone : Zone) :
    List (Bool ⊕ ControllerEvent) → Option Zone
  | [] => some zone
  | event :: rest =>
    if permits (zone.sampleLabel event) then
      (zone.step (zone.sampleLabel event)).bind (sampleRunWhile permits · rest)
    else none

theorem run_of_sampleRunWhile {permits : ZoneLabel → Bool} {guard : Zone → ZoneLabel → Zone → Prop}
    (sound : ∀ zone label next, permits label = true → guard zone label next)
    {zone finish : Zone} {events : List (Bool ⊕ ControllerEvent)}
    (executed : zone.sampleRunWhile permits events = some finish) :
    system.Run guard zone finish := by
  induction events generalizing zone with
  | nil =>
    obtain rfl := Option.some.inj executed
    exact .refl
  | cons event rest inductionHypothesis =>
    obtain ⟨permitted, executed⟩ := Option.ite_none_right_eq_some.mp executed
    obtain ⟨next, stepped, executed⟩ := Option.bind_eq_some_iff.mp executed
    have stepped : system.step zone (zone.sampleLabel event) = some next := stepped
    exact .head stepped (sound _ _ _ permitted) (inductionHypothesis executed)

end Zone

end MoistureLoop
