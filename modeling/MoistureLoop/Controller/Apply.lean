import MoistureLoop.Controller.State
import MoistureLoop.StateMachine.Decide

/-! # Deciding and applying one event

`_build_input`, the synchronous part of `_apply_locked`, its actions with the
outcome of their writes, and the failed-write handler. -/

open MoistureLoop.Action

namespace MoistureLoop

namespace ZoneController

/-! ## The input of a decision -/

/-- `_build_input`; `sessionId` is the identifier minted for this decision. -/
def buildInput (controller : ZoneController) (shared : SharedState) (event : ControllerEvent)
    (sessionId : String) : TransitionInput where
  nowUtc := shared.now
  config := controller.config
  state := controller.state
  enabled := controller.enabled
  session := controller.session
  activeFault := controller.activeFault
  secondaryFault := controller.secondaryFault
  observation := controller.observation
  dailyRuntimeS := (controller.rollDaily shared.calendar shared.now).daily.runtimeS
  lastSessionEndUtc := controller.lastSessionEnd
  actuator := controller.assessment
  resource :=
    { slotGranted := shared.slots.owner = some controller.zoneId
      blockersEmpty := shared.slots.blockersEmpty }
  armedWatchdog := controller.armedWatchdog
  event := event
  externalOn := controller.externalOn
  newSessionIdentity := some ⟨sessionId, controller.runId, controller.configFingerprint⟩

/-! ## The synchronous part of applying -/

/-- `_charge_runtime`. -/
def chargeRuntime (controller : ZoneController) (calendar : LocalCalendar) (now : Instant)
    (deltaS : Seconds) (endUtc : Instant) : ZoneController :=
  let current := controller.rollDaily calendar now
  let charge := calendar.currentDayCharge (endUtc - deltaS) endUtc current.daily.dateLocal
  if 0 < charge then
    { current with daily := ⟨current.daily.dateLocal, current.daily.runtimeS + charge⟩ }
  else current

/-- `_finalize_summary`; every decision that closes a session carries its reason. -/
def finalizeSummary (controller : ZoneController) (reason : Option CompletionReason)
    (closed : SessionContext) (now : Instant) : ZoneController :=
  match reason with
  | none => controller
  | some reason =>
    let ended := closed.offConfirmedAtUtc.getD now
    { controller with
      lastSummary := some
        { mode := closed.mode
          reason := reason
          runtimeS := closed.sessionRuntimeS
          runtimeEstimated := closed.runtimeEstimated
          runtimeEstimationReason := closed.runtimeEstimationReason
          requestedDurationS := closed.manualRequestedDurationS
          effectiveDurationS := closed.manualEffectiveDurationS
          clampReasons := closed.manualClampReasons
          cycles := closed.cycle
          moistureBefore := closed.moistureAtStart
          moistureAfter := closed.lastRecheckValue
          startedAtUtc := closed.startedAtUtc
          endedAtUtc := ended }
      lastSessionEnd := some ended }

def cancelTimers (controller : ZoneController) (kinds : List TimerKind) : ZoneController :=
  { controller with timers := controller.timers.filter fun timer => timer.1 ∉ kinds }

def cancelWatchdog (controller : ZoneController) : ZoneController :=
  { controller with watchdogTimer := none }

/-- The state fields a decision writes. -/
def adopt (controller : ZoneController) (decision : Decision) : ZoneController :=
  { controller with
    session := if decision.clearSession then none else decision.session.or controller.session
    state := decision.newState.getD controller.state
    activeFault := if decision.clearFault then none else decision.fault.or controller.activeFault
    secondaryFault := decision.secondaryFault.or controller.secondaryFault }

/-- Charge the growth of the session's runtime to the local day. -/
def chargeGrowth (controller : ZoneController) (shared : SharedState) (decision : Decision)
    (input : TransitionInput) : ZoneController :=
  let previous := (input.session.map SessionContext.sessionRuntimeS).getD 0
  match controller.session.or decision.finalSession with
  | none => controller
  | some grown =>
    if previous < grown.sessionRuntimeS then
      controller.chargeRuntime shared.calendar shared.now (grown.sessionRuntimeS - previous)
        (grown.offConfirmedAtUtc.getD input.nowUtc)
    else controller

def housekeepTimers (controller : ZoneController) (previous : ControllerState) : ZoneController :=
  let left := if previous = .watering ∧ controller.state ≠ .watering then
      (controller.cancelTimers [.pulseEnd, .manualEnd, .onConfirmTimeout]).cancelWatchdog
    else controller
  let soaked := if previous = .soaking ∧ controller.state ≠ .soaking then
      left.cancelTimers [.soakEnd, .grace]
    else left
  if controller.session.any fun session => session.pulseConfirmedAtUtc.isSome then
    soaked.cancelTimers [.onConfirmTimeout]
  else soaked

/-- The duration of a manual request that has to wait for the slot. -/
def recordPendingManual (controller : ZoneController) (decision : Decision)
    (input : TransitionInput) : ZoneController :=
  match input.event with
  | .manualStartRequested requestedS =>
    if requestSlot ∈ decision.actions then { controller with pendingManual := requestedS }
    else controller
  | _ => controller

/-- `_apply_locked` up to its first action. -/
def applyPrelude (controller : ZoneController) (shared : SharedState) (decision : Decision)
    (input : TransitionInput) : ZoneController :=
  let started := if input.session = none then
      match decision.session with
      | some session =>
        if session.mode = .auto then
          { controller with lastAutoSessionStart := some session.startedAtUtc }
        else controller
      | none => controller
    else controller
  let charged := (started.adopt decision).chargeGrowth shared decision input
  let summed := match decision.finalSession with
    | none => charged
    | some closed => charged.finalizeSummary decision.reason closed input.nowUtc
  (summed.housekeepTimers controller.state).recordPendingManual decision input

/-! ## Persistence -/

/-- `_possible_flow_owner_for_persist`. -/
def possibleFlowOwnerForPersist (controller : ZoneController) (record : SafetyRecord) :
    Option PossibleFlowOwner :=
  if controller.session.any SessionContext.openPulse ∨
      .integrationOffUnconfirmed ∈ record.blockerReasons then some .integration
  else if controller.externalOn ∨ .externalFlow ∈ record.blockerReasons then some .external
  else none

/-- The arguments of the controller's write. -/
def update (controller : ZoneController) (record : SafetyRecord) : ControllerUpdate where
  state := controller.state
  enabled := controller.enabled
  activeFault := controller.activeFault
  secondaryFault := controller.secondaryFault
  lastSessionEndUtc := controller.lastSessionEnd
  lastAutoSessionStartUtc := controller.lastAutoSessionStart
  daily := some controller.daily
  lastSessionSummary := controller.lastSummary
  session := controller.session
  possibleFlowOwner := controller.possibleFlowOwnerForPersist record

/-- `_persist_locked` up to the verified save; an unknown record is a `KeyError`. -/
def persistPayload (controller : ZoneController) (store : StoreData) : Except PyError StoreData :=
  match store.safetyRecords.get? controller.safetyRecordId with
  | none => .error .key
  | some record =>
    updateControllerRuntime store controller.safetyRecordId controller.zoneHistoryId
      (controller.update record)

/-- `_persist_locked` with the outcome of the backend. -/
def persist (controller : ZoneController) (store : StoreData) (saved : Bool) :
    Except PyError StoreData :=
  match controller.persistPayload store with
  | .error err => .error err
  | .ok data => saveAndVerify data saved

def ensureSessionTask (controller : ZoneController) : ZoneController :=
  { controller with sessionTask := controller.sessionTask.or (some .looping) }

/-- `_handle_persist_failure_locked`: a failed safety write never authorizes
watering. -/
def handlePersistFailure (controller : ZoneController) : ZoneController :=
  let failed := { controller with
    persistFailed := true
    onRequested := false
    session := controller.session.map fun session =>
      { session with
        pendingTerminationReason := session.pendingTerminationReason.or (some .actuatorFault) }
    activeFault := some .restoredFromUnsafeState
    state := .fault }
  if failed.assessment.provenOff then failed
  else
    { failed with
      offRequested := true
      offRequestedFor := failed.session.map SessionContext.pulse }.ensureSessionTask

end ZoneController

/-! ## Blockers -/

/-- `_persist_slot_blocker` with the outcome of the backend. -/
def persistSlotBlocker (store : StoreData) (safetyRecordId : String) (reason : BlockerReason)
    (active saved : Bool) : Except PyError StoreData :=
  match store.safetyRecords.get? safetyRecordId with
  | none =>
    .error (.storeWriteVerification
      ("blocker has no canonical safety record: " ++ safetyRecordId))
  | some _ =>
    match setRecordBlocker store safetyRecordId reason active with
    | .error err => .error err
    | .ok none => .ok store
    | .ok (some data) => saveAndVerify data saved

namespace SharedState

/-- `async_add_blocker`: the key is live even when its write fails. -/
def addBlocker (shared : SharedState) (key : BlockerKey) (saved : Bool) :
    SharedState × Option PyError :=
  if key ∈ shared.slots.blockers ∧ key ∉ shared.slots.unpersistedBlockers then (shared, none)
  else
    let live := shared.slots.addLive key
    match persistSlotBlocker shared.store key.1 key.2 true saved with
    | .error err =>
      ({ shared with slots := { live with
          unpersistedBlockers := live.unpersistedBlockers.insert key } }, some err)
    | .ok store =>
      ({ shared with
          store := store
          slots := { live with
            unpersistedBlockers := live.unpersistedBlockers.filter fun other => other ≠ key } },
        none)

/-- `async_remove_blocker`: a failed write keeps the live key. -/
def removeBlocker (shared : SharedState) (key : BlockerKey) (saved : Bool) :
    SharedState × Option PyError :=
  if key ∉ shared.slots.blockers then (shared, none)
  else
    match persistSlotBlocker shared.store key.1 key.2 false saved with
    | .error err => (shared, some err)
    | .ok store => ({ shared with store := store, slots := shared.slots.removeLive key }, none)

end SharedState

/-! ## Actions -/

namespace ZoneController

/-- `_arm_timer`. -/
def armTimerAt (controller : ZoneController) (kind : TimerKind) (atUtc : Instant) :
    ZoneController :=
  let cancelled := controller.cancelTimers [kind]
  { cancelled with timers := (kind, atUtc) :: cancelled.timers }

/-- `_ensure_slot_request`. -/
def ensureSlotRequest (controller : ZoneController) : ZoneController :=
  if controller.runtimeEligible then
    { controller with slotTask := controller.slotTask.or (some .starting) }
  else controller

/-- The `TurnOn` branch: a new pulse gets a fresh OFF operation and fresh proof. -/
def turnOnRequested (controller : ZoneController) : ZoneController :=
  { controller with
    onRequested := true
    offOperation := none
    offError := false
    offProven := false
    offProvenAt := none }

/-- `_apply_action_locked` with the outcome of the backend; the emitted events and
the scheduled evaluation only notify. -/
def applyAction (controller : ZoneController) (shared : SharedState) (action : Action)
    (saved : Bool) : (ZoneController × SharedState) × Option PyError :=
  match action with
  | .persistState _ =>
    let rolled := controller.rollDaily shared.calendar shared.now
    match rolled.persist shared.store saved with
    | .error err => ((rolled, shared), some err)
    | .ok store => ((rolled, { shared with store := store }), none)
  | .turnOn => ((controller.turnOnRequested, shared), none)
  | .executeOff _ => (({ controller with offRequested := true }, shared), none)
  | .armTimer kind atUtc => ((controller.armTimerAt kind atUtc, shared), none)
  | .armWatchdog token =>
    (({ controller with armedWatchdog := some token, watchdogTimer := some token }, shared), none)
  | .requestSlot => ((controller.ensureSlotRequest, shared), none)
  | .releaseSlot =>
    ((controller, { shared with
        slots := (shared.slots.release controller.zoneId).cancelRequest controller.zoneId }), none)
  | .addBlocker reason =>
    let (shared, raised) := shared.addBlocker (controller.safetyRecordId, reason) saved
    ((controller, shared), raised)
  | .removeBlocker reason =>
    let (shared, raised) := shared.removeBlocker (controller.safetyRecordId, reason) saved
    ((controller, shared), raised)
  | .setExternalOn value => (({ controller with externalOn := value }, shared), none)
  -- `SlotManager.async_requeue_tail` is never requested by a decision.
  | .requeueSlotTail | .emitSessionStarted | .emitSessionFinished | .emitFaultSet _ _
  | .emitFaultCleared _ | .scheduleEvaluation => ((controller, shared), none)

/-- `_apply_locked` after its last action. -/
def applyFinish (controller : ZoneController) : ZoneController :=
  if controller.session.isSome ∨ controller.onRequested ∨ controller.offRequested then
    controller.ensureSessionTask
  else controller

/-! ## Uninterrupted application -/

/-- Execute actions while every write succeeds; a raised error ends the application. -/
def applyActions (controller : ZoneController) (shared : SharedState) :
    List Action → Except PyError (ZoneController × SharedState)
  | [] => .ok (controller.applyFinish, shared)
  | action :: rest =>
    match controller.applyAction shared action true with
    | (_, some err) => .error err
    | ((controller, shared), none) => controller.applyActions shared rest

end ZoneController

/-- How handling one event can raise. -/
inductive DispatchError where
  | decide (err : DecideError)
  | apply (err : PyError)
  deriving DecidableEq, Repr

namespace ZoneController

/-- `async_dispatch` of one event with no other coroutine in between and every
write succeeding. -/
def dispatch (controller : ZoneController) (shared : SharedState) (event : ControllerEvent)
    (sessionId : String) : Except DispatchError (ZoneController × SharedState) :=
  let rolled := controller.rollDaily shared.calendar shared.now
  let input := rolled.buildInput shared event sessionId
  match StateMachine.decide input with
  | .error err => .error (.decide err)
  | .ok decision =>
    if decision.noOp then .ok (rolled, shared)
    else
      match (rolled.applyPrelude shared decision input).applyActions shared decision.actions with
      | .error err => .error (.apply err)
      | .ok result => .ok result

/-- Several events in a row, each handled to its end. -/
def dispatchAll (controller : ZoneController) (shared : SharedState) :
    List (ControllerEvent × String) → Except DispatchError (ZoneController × SharedState)
  | [] => .ok (controller, shared)
  | (event, sessionId) :: rest =>
    match controller.dispatch shared event sessionId with
    | .error err => .error err
    | .ok (controller, shared) => controller.dispatchAll shared rest

end ZoneController

end MoistureLoop
