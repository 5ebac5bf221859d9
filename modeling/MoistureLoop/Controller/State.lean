import MoistureLoop.SlotManager
import MoistureLoop.Models.Transition

/-! # The state of one zone controller

`ZoneController` holds the attributes that decisions and commands depend on, the
coroutine that holds the transition lock, and where the session-owner task, the
slot task and each OFF operation stand.  Every `await` of the source is a boundary
between two steps.  Each action of a decision is a step of its own, also where the
source runs two of them without an `await`: this only adds interleavings.

Some attributes record history and decide nothing: the pulse OFF was last requested
for, the pulses an OFF operation was requested for and begun in, and the dispatched ON
commands. -/

namespace MoistureLoop

/-- Home Assistant local days: `dayStart d` is the first instant of day `d`. -/
structure LocalCalendar where
  dayStart : LocalDate → Instant
  dayOf : Instant → LocalDate
  dayOf_spec : ∀ at' day, dayOf at' = day ↔ dayStart day ≤ at' ∧ at' < dayStart (day + 1)

/-- `current_day_charge`: the part of an interval that falls on one local day. -/
def LocalCalendar.currentDayCharge (calendar : LocalCalendar) (startUtc endUtc : Instant)
    (day : LocalDate) : Seconds :=
  max 0 (min endUtc (calendar.dayStart (day + 1)) - max startUtc (calendar.dayStart day))

/-- Calendar of a zone without offset. -/
def utcCalendar : LocalCalendar where
  dayStart day := day * 86400
  dayOf at' := ⌊at' / 86400⌋
  dayOf_spec at' day := by
    rw [Int.floor_eq_iff, le_div_iff₀ (by norm_num), div_lt_iff₀ (by norm_num)]
    push_cast
    rfl

/-! ## OFF operations -/

/-- Where the coroutine of one OFF operation stands.  `left` counts the attempts
still allowed after the current one. -/
inductive OffPhase where
  | commanding (left : Nat)
  | awaitingProof (left : Nat)
  | settling (confirmedAt : Option Instant)
  | dispatching (confirmedAt : Option Instant)
  | recovering
  | done (result : Bool)
  deriving DecidableEq, Repr

/-- One `_complete_off_operation` task, with the pulse that asked for OFF and the pulse
the controller was in when it was begun. -/
structure OffOperation where
  requestedFor : Option PulseId
  begunIn : Option PulseId
  phase : OffPhase
  deriving DecidableEq, Repr

def OffOperation.isDone (operation : OffOperation) : Bool :=
  match operation.phase with
  | .done _ => true
  | _ => false

/-- `OFF_TOTAL_ATTEMPTS`. -/
def offTotalAttempts : Nat := 3

/-! ## ON commands and tasks -/

/-- `InFlightOnCommand`: the possible-flow marker of a dispatched ON. -/
structure InFlightOn where
  sessionId : String
  dispatchedAtUtc : Instant
  observedOnAtUtc : Option Instant := none
  deriving DecidableEq, Repr

/-- Where the session-owner task stands; `none` in the controller when it is done. -/
inductive SessionTask where
  /-- At the head of the loop, or waiting for the wake event. -/
  | looping
  /-- In `_perform_on`, waiting for the transition lock. -/
  | acquiring
  /-- In `_perform_on`, applying the refusal event under the lock. -/
  | refusing
  /-- The ON service call has been dispatched and has not returned. -/
  | commanding
  /-- The call has returned; waiting for the lock to persist the command. -/
  | reentering
  /-- Under the lock: persisting `on_commanded`, then applying `OnConfirmed`. -/
  | anchoring
  /-- Waiting for an OFF operation: from the loop, or to compensate an ON. -/
  | awaitingOff (operation : Nat) (compensating : Bool)
  deriving DecidableEq, Repr

/-- `_await_slot`: created, waiting for its request, or about to dispatch the recorded manual
request, else the grant. -/
inductive SlotTask where
  | starting
  | waiting (request : Nat)
  | offering (pendingManual : Option Seconds)
  deriving DecidableEq, Repr

/-- One queued `_async_actuator_change`. -/
structure ActuatorChange where
  previous : ActuatorAssessment
  assessment : ActuatorAssessment
  terminalOn : Bool
  observedAt : Instant
  deriving DecidableEq, Repr

/-- On whose behalf a decision is being applied, which is what runs after it. -/
inductive Applier where
  | event
  | slot
  | offOperation (operation : Nat)
  | refusal
  | confirmation
  deriving DecidableEq, Repr

/-- The coroutine that holds the transition lock across an `await`. -/
inductive LockHolder where
  /-- `_apply_locked` with the actions not executed yet. -/
  | applying (decision : Decision) (input : TransitionInput) (rest : List Action)
      (applier : Applier)
  /-- `_async_actuator_change` removing the exact not-proven-OFF key. -/
  | provingOff (change : ActuatorChange) (offOperationActive : Bool)
  /-- `_perform_on` persisting the commanded anchor. -/
  | persistingCommand
  /-- `_perform_on` about to recheck its authority, after the anchor or the confirmation. -/
  | rechecking (confirmed : Bool)
  deriving DecidableEq, Repr

/-! ## The controller -/

structure ZoneController where
  zoneId : String
  safetyRecordId : String
  zoneHistoryId : String
  runId : String
  configFingerprint : String
  config : ZoneConfig
  runtimeLifecycle : RuntimeLifecycle := .active
  runtimeEligible : Bool := true
  quiescing : Bool := false
  state : ControllerState := .disabled
  enabled : Bool := false
  session : Option SessionContext := none
  activeFault : Option FaultCode := none
  secondaryFault : Option FaultCode := none
  lastSessionEnd : Option Instant := none
  lastAutoSessionStart : Option Instant := none
  lastSummary : Option SessionSummary := none
  daily : DailyRuntime
  observation : MoistureObservation := ⟨none, .unavailable, none⟩
  externalOn : Bool := false
  armedWatchdog : Option WatchdogToken := none
  assessment : ActuatorAssessment := ⟨false, false, false, Bool.and_false false⟩
  timers : List (TimerKind × Instant) := []
  watchdogTimer : Option WatchdogToken := none
  sessionTask : Option SessionTask := none
  onRequested : Bool := false
  offRequested : Bool := false
  offRequestedFor : Option PulseId := none
  offOperation : Option Nat := none
  offOperations : List OffOperation := []
  offError : Bool := false
  offProven : Bool := false
  offProvenAt : Option Instant := none
  slotTask : Option SlotTask := none
  pendingManual : Option Seconds := none
  persistFailed : Bool := false
  inflightOn : Option InFlightOn := none
  dispatches : List (PulseId × Instant) := []
  locked : Option LockHolder := none
  actuatorChanges : List ActuatorChange := []
  deriving DecidableEq, Repr

/-- What the controllers share: the clock, the slot manager and the store. -/
structure SharedState where
  calendar : LocalCalendar
  now : Instant
  slots : SlotManager
  store : StoreData

namespace ZoneController

/-- The operation the controller refers to, if it has begun one for this pulse. -/
def currentOffOperation (controller : ZoneController) : Option OffOperation :=
  controller.offOperation.bind fun operation => controller.offOperations[operation]?

/-- `self._off_operation is not None and not self._off_operation.done()`. -/
def offOperationActive (controller : ZoneController) : Bool :=
  controller.currentOffOperation.any fun operation => !operation.isDone

/-- `command_authorization_open`; detaching ends the life of the controller. -/
def commandAuthorizationOpen (controller : ZoneController) : Bool :=
  controller.runtimeEligible && controller.runtimeLifecycle = .active && !controller.quiescing
    && !controller.persistFailed

/-- `_current_daily`: lazy rollover to the current local day. -/
def rollDaily (controller : ZoneController) (calendar : LocalCalendar) (now : Instant) :
    ZoneController :=
  if controller.daily.dateLocal = calendar.dayOf now then controller
  else { controller with daily := ⟨calendar.dayOf now, 0⟩ }

end ZoneController

end MoistureLoop
