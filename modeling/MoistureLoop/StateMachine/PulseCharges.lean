import MoistureLoop.StateMachine.Traced

/-! # What a session is charged

A session is charged for its pulses, each from its command to the OFF that was accepted for
it.  The anchor of the last pulse stays set while the session soaks, and a session that is
closed after an interference of its soak is charged from it again. -/

open MoistureLoop.Action

namespace MoistureLoop

/-- A closed pulse: its command, if it was commanded, and the OFF accepted for it. -/
structure PulseInterval where
  commandedAtUtc : Option Instant
  offAtUtc : Instant
  deriving DecidableEq, Repr

def PulseInterval.charge (pulse : PulseInterval) : Seconds :=
  match pulse.commandedAtUtc with
  | none => 0
  | some commandedAt => max 0 (pulse.offAtUtc - commandedAt)

def charged (pulses : List PulseInterval) : Seconds := (pulses.map PulseInterval.charge).sum

@[simp] theorem charged_nil : charged [] = 0 := rfl

@[simp] theorem charged_append (first second : List PulseInterval) :
    charged (first ++ second) = charged first + charged second := by
  simp [charged]

/-- The pulses of a session: the closed ones, whether the last one is still open, and when an
external ON was seen in the soak after it. -/
structure PulseLedger where
  closed : List PulseInterval := []
  isOpen : Bool := false
  interferedAt : Option Instant := none
  deriving DecidableEq, Repr

namespace PulseLedger

/-- A decision that requests ON opens a pulse, T6 closes it, and external ON in a soak is
noted. -/
def record (ledger : PulseLedger) (inp : TransitionInput) (decision : Decision) : PulseLedger :=
  if turnOn ∈ decision.actions then
    { closed := if inp.state = .soaking then ledger.closed else [], isOpen := true }
  else
    match inp.session, inp.event with
    | some session, .offConfirmed offAt =>
      if inp.state = .watering ∧ decision.newState = some .soaking then
        { ledger with
          closed := ledger.closed ++ [⟨session.pulseCommandedAtUtc, offAt⟩]
          isOpen := false }
      else ledger
    | some _, .externalActuatorOn =>
      if inp.state = .soaking then { ledger with interferedAt := some inp.nowUtc } else ledger
    | _, _ => ledger

/-- The pulses of the session when it is closed with an OFF instant. -/
def pulses (ledger : PulseLedger) (session : SessionContext) (offAt : Option Instant) :
    List PulseInterval :=
  if ledger.isOpen then
    ledger.closed ++ (offAt.map (PulseInterval.mk session.pulseCommandedAtUtc)).toList
  else ledger.closed

/-- How long external flow was seen in the soak, until an OFF instant. -/
def externalFlow (ledger : PulseLedger) (offAt : Option Instant) : Seconds :=
  match ledger.isOpen, ledger.interferedAt, offAt with
  | false, some onAt, some offAt => max 0 (offAt - onAt)
  | _, _, _ => 0

end PulseLedger

/-- The events that only a start over a persisted session dispatches. -/
def ControllerEvent.isRestart : ControllerEvent → Bool
  | .startupPersistedWatering _ | .startupPersistedSoaking .. => true
  | _ => false

namespace StateMachine

/-- The runtime of the session is what its closed pulses are charged; a pulse is open in
WATERING and closed in SOAKING, and no recovery is committed. -/
structure Charged (ledger : PulseLedger) (state : ControllerState) (session : SessionContext) :
    Prop where
  runtime : session.sessionRuntimeS = charged ledger.closed
  watering : state = .watering → ledger.isOpen = true
  soaking : state = .soaking → ledger.isOpen = false
  unrecovered : session.pendingTerminationReason ≠ some .restartRecovery

variable {ledger : PulseLedger} {inp : TransitionInput} {decision : Decision}
  {before after session final : SessionContext}

/-- Only a pulse that starts, or that T6 ends, changes the pulses of a session. -/
theorem record_kept (silent : turnOn ∉ decision.actions)
    (other : ¬ (inp.state = .watering ∧ decision.newState = some .soaking)) :
    (ledger.record inp decision).closed = ledger.closed ∧
      (ledger.record inp decision).isOpen = ledger.isOpen := by
  unfold PulseLedger.record
  rw [if_neg silent]
  split
  · rw [if_neg other]
    exact ⟨rfl, rfl⟩
  · split <;> exact ⟨rfl, rfl⟩
  · exact ⟨rfl, rfl⟩

theorem Charged.kept (holds : Charged ledger inp.state before) (silent : turnOn ∉ decision.actions)
    {newState : ControllerState}
    (other : ¬ (inp.state = .watering ∧ decision.newState = some .soaking))
    (runtime : after.sessionRuntimeS = before.sessionRuntimeS)
    (watering : newState = .watering → inp.state = .watering)
    (soaking : newState = .soaking → inp.state = .soaking)
    (unrecovered : after.pendingTerminationReason ≠ some .restartRecovery) :
    Charged (ledger.record inp decision) newState after := by
  obtain ⟨closed, isOpen⟩ := @record_kept ledger inp decision silent other
  refine ⟨by rw [runtime, closed]; exact holds.runtime, fun enters => ?_, fun enters => ?_,
    unrecovered⟩
  · rw [isOpen]
    exact holds.watering (watering enters)
  · rw [isOpen]
    exact holds.soaking (soaking enters)

theorem Trigger.unrecovered {reason : CompletionReason} {fault : Option FaultCode}
    {defensive : Bool} (trigger : Trigger inp session reason fault defensive) :
    reason ≠ .restartRecovery := by
  cases trigger <;> simp

open PulseLedger

/-- The evidence of an uncommitted or committed session closes it for no recovery. -/
theorem Evidence.unrecovered {reason : CompletionReason} {offAt : Instant}
    {extraActions : List Action} (evidence : Evidence inp session reason offAt extraActions)
    (pending : session.pendingTerminationReason ≠ some .restartRecovery) :
    reason ≠ .restartRecovery := by
  cases evidence with
  | committed _ committed =>
    rintro rfl
    exact pending committed
  | external | manualOff => simp

end StateMachine

/-! ## Runs of a zone -/

namespace ChargedZone

variable {start finish : TracedZone PulseLedger}

/-- No decision of the run is one of a start over a persisted session. -/
abbrev NoRestart (_ : PulseLedger) (inp : TransitionInput) : Prop := inp.event.isRestart = false

def sampleLabel (traced : TracedZone PulseLedger) : Instant × Option ControllerEvent → ZoneLabel
  | (atUtc, some event) => .decide { traced.zone.sampleInput event with nowUtc := atUtc }
  | (atUtc, none) => .commanded "session" atUtc

/-- Events and commands, each shown the zone as it then is. -/
def sampleRun (traced : TracedZone PulseLedger) :
    List (Instant × Option ControllerEvent) → Option (TracedZone PulseLedger)
  | [] => some traced
  | event :: rest =>
    (traced.step PulseLedger.record (sampleLabel traced event)).bind (sampleRun · rest)

theorem run_of_sampleRun {events : List (Instant × Option ControllerEvent)}
    (live : ∀ event ∈ events, (event.2.any ControllerEvent.isRestart) = false)
    (executed : sampleRun start events = some finish) :
    (TracedZone.system PulseLedger.record).Run (TracedZone.Decides NoRestart) start finish := by
  induction events generalizing start with
  | nil =>
    obtain rfl := Option.some.inj executed
    exact .refl
  | cons event rest inductionHypothesis =>
    obtain ⟨next, stepped, executed⟩ := Option.bind_eq_some_iff.mp executed
    have stepped : (TracedZone.system PulseLedger.record).step start (sampleLabel start event) =
        some next := stepped
    have now := live event (by simp)
    refine .head stepped ?_ (inductionHypothesis (fun other member => live other (by simp [member]))
      executed)
    intro input decides
    obtain ⟨atUtc, event⟩ := event
    cases event with
    | none => cases decides
    | some event =>
      obtain rfl := Option.some.inj decides
      exact now

/-- An enabled zone at rest that has recorded nothing. -/
def resting : TracedZone PulseLedger := ⟨Zone.atRest, {}⟩

/-- A pulse from 100 to 160; the actuator is seen ON in the soak at 300. -/
def interfered : List (Instant × Option ControllerEvent) :=
  [(100, some .autoEvaluate), (100, none), (160, some (.offConfirmed 160)),
    (300, some .externalActuatorOn)]

end ChargedZone

end MoistureLoop
