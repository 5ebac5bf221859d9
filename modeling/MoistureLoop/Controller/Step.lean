import MoistureLoop.Controller.Command
import MoistureLoop.Foundations.Guarded

/-! # Steps of the controllers of an entry

Each label is one piece of a coroutine between two awaits, together with what its
environment answers there: whether the backend accepted a write, what the actuator
reads, and which predicates of the final gate fail.  Timers, watchdogs and requests may
be delivered at any moment, since a fired callback can wait for the lock arbitrarily
long.  Detaching a controller and cancelling its session task are not modelled. -/

open MoistureLoop.Action

namespace MoistureLoop

inductive ControllerLabel where
  | dispatch (event : ControllerEvent)
  | moisture (observation : MoistureObservation)
  | setEnabled (enabled : Bool)
  | act (saved : Bool)
  | actuatorEvent (assessment : ActuatorAssessment) (terminalOn ownContext : Bool)
  | actuatorChange
  | provingOff (saved : Bool)
  | slotRequest
  | slotResume
  | slotOffer
  | slotCancelled
  | wake
  | gate (authority : OnAuthority)
  | serviceReturned (raised : Bool) (authority : OnAuthority)
  | reenter (authority : OnAuthority)
  | anchor (saved : Bool)
  | recheck (authority : OnAuthority)
  | offServiceReturned (operation : Nat) (reading : ActuatorAssessment)
  | offProofEnded (operation : Nat)
  | offAborted (operation : Nat)
  | offDispatch (operation : Nat)
  | offJoined
  | ensureOff
  | quiesce
  | updateOwnership (zoneHistoryId : String) (lifecycle : RuntimeLifecycle)
  deriving DecidableEq, Repr

/-- The events that timers, services and the entry dispatch as they are; the others come
from the controller's own coroutines. -/
def ControllerEvent.isInput : ControllerEvent → Bool
  | .disableRequested | .enableRequested | .moistureReport _ | .onConfirmed _ | .offConfirmed _
  | .offNotConfirmed | .actuatorBecameUnavailable | .externalActuatorOn | .externalActuatorOff _
  | .slotGranted => false
  | _ => true

def OffPhase.afterDispatch (phase : OffPhase) (raised : Bool) : OffPhase :=
  match phase with
  | .dispatching confirmedAt => if raised then .recovering else .done confirmedAt.isSome
  | .recovering => .done false
  | other => other

namespace ZoneController

/-! ## Deciding under the lock -/

/-- What runs when an application ends, normally or with an exception. -/
def afterApply (controller : ZoneController) (applier : Applier) (raised : Bool) :
    ZoneController :=
  let released := { controller with locked := none }
  match applier with
  | .event => released
  | .slot => { released with slotTask := none }
  | .offOperation operation =>
    match controller.offOperations[operation]? with
    | none => released
    | some current =>
      let finished := released.setOffPhase operation (current.phase.afterDispatch raised)
      -- The exception path keeps the error for whoever joins the operation.
      if raised ∧ current.phase ≠ .recovering then { finished with offError := true }
      else finished
  | .refusal => { released with sessionTask := if raised then none else some .looping }
  | .confirmation =>
    if raised then { released with sessionTask := none, inflightOn := none }
    else { controller with locked := some (.rechecking true) }

/-- `_decide_and_apply_locked` up to its first action. -/
def decideAndApply (controller : ZoneController) (shared : SharedState) (event : ControllerEvent)
    (applier : Applier) (sessionId : String) : ZoneController :=
  let rolled := controller.rollDaily shared.calendar shared.now
  let input := rolled.buildInput shared event sessionId
  match StateMachine.decide input with
  | .error _ => rolled.afterApply applier true
  | .ok decision =>
    if decision.noOp then rolled.afterApply applier false
    else
      { rolled.applyPrelude shared decision input with
        locked := some (.applying decision input decision.actions applier) }

/-- Remember for which pulse OFF was requested. -/
def noteRequest (controller : ZoneController) (action : Action) (input : TransitionInput) :
    ZoneController :=
  match action with
  | .executeOff _ =>
    { controller with offRequestedFor := input.session.map SessionContext.pulse }
  | _ => controller

def act (controller : ZoneController) (shared : SharedState) (saved : Bool)
    (decision : Decision) (input : TransitionInput) (applier : Applier) :
    List Action → ZoneController × SharedState
  | [] => (controller.applyFinish.afterApply applier false, shared)
  | action :: rest =>
    match controller.applyAction shared action saved with
    | ((acted, shared), none) =>
      ({ acted.noteRequest action input with
          locked := some (.applying decision input rest applier) }, shared)
    | ((acted, shared), some (.storeWriteVerification _)) =>
      (acted.handlePersistFailure.afterApply applier false, shared)
    -- Every other exception escapes `_apply_locked`.
    | ((acted, shared), some _) => (acted.afterApply applier true, shared)

/-! ## The session-owner task -/

/-- `_ensure_off_operation`: begin or join the shared operation and wait for it. -/
def ensureOffOperation (controller : ZoneController) (requestedFor : Option PulseId)
    (compensating : Bool) : ZoneController :=
  let begun := { controller with offRequested := false }.beginOffOperation requestedFor
  { begun with sessionTask := begun.offOperation.map (SessionTask.awaitingOff · compensating) }

/-- Commit the loss of an ON command and join the OFF operation; a raise ends the task. -/
def compensate (controller : ZoneController) (shared : SharedState)
    (configurationChanged serviceFailed : Bool) : ZoneController :=
  let (committed, raised) :=
    controller.commitOnCompensationNow shared configurationChanged serviceFailed
  if raised then { committed with sessionTask := none, inflightOn := none }
  else committed.ensureOffOperation (committed.session.map SessionContext.pulse) true

/-- The head of the loop of `_run_session`. -/
def wake (controller : ZoneController) : Option ZoneController :=
  if controller.onRequested then
    some { controller with onRequested := false, sessionTask := some .acquiring }
  else if controller.offRequested then
    some (controller.ensureOffOperation controller.offRequestedFor false)
  else if controller.locked = none ∧ controller.session = none then
    some { controller with sessionTask := none }
  else none

/-- `_perform_on` from the lock to the dispatch of the ON service call. -/
def gate (controller : ZoneController) (shared : SharedState) (authority : OnAuthority)
    (sessionId : String) : ZoneController :=
  match controller.session with
  | none => { controller with sessionTask := some .looping }
  | some session =>
    if controller.state ≠ .watering ∨ session.pendingTerminationReason.isSome then
      { controller with sessionTask := some .looping }
    else
      let refusing := { controller with sessionTask := some .refusing }
      let expired : Bool := decide (session.mode = .auto) &&
        session.sensorFreshUntilUtc.any fun freshUntil => decide (freshUntil ≤ shared.now)
      match controller.armedWatchdog.filter fun _ => expired with
      | some token => refusing.decideAndApply shared (.watchdogFired token) .refusal sessionId
      | none =>
        let refreshed := { refusing with assessment := authority.reading }
        let authorization :=
          controller.evaluateOnAuthority shared session.sessionId true authority
        if authorization.authorized then
          { refreshed with
            inflightOn := some { sessionId := session.sessionId, dispatchedAtUtc := shared.now }
            dispatches := (session.pulse, shared.now) :: controller.dispatches
            sessionTask := some .commanding }
        else
          let quiesced := refreshed.quiesceIf authorization.requiresQuiescing
          quiesced.decideAndApply shared (quiesced.finalGateRefusalEvent shared.now authorization)
            .refusal sessionId

/-- The recheck of the authority of the ON command in flight, which either goes on or is
compensated. -/
def recheckOn (controller : ZoneController) (shared : SharedState) (marker : InFlightOn)
    (authority : OnAuthority) (serviceFailed : Bool)
    (continued : ZoneController → ZoneController) : ZoneController :=
  let authorization := controller.evaluateOnAuthority shared marker.sessionId false authority
  if serviceFailed ∨ authorization.authorized = false then
    (controller.quiesceIf authorization.requiresQuiescing).compensate shared
      (!authorization.configurationAuthorityValid) serviceFailed
  else continued controller

/-- The pulse the ON command was dispatched for is over, one way or another. -/
def finishOn (controller : ZoneController) (task : Option SessionTask) : ZoneController :=
  { controller with inflightOn := none, sessionTask := task }

/-- The verified write of the commanded anchor. -/
def anchor (controller : ZoneController) (shared : SharedState) (saved : Bool) :
    ZoneController × SharedState :=
  let rolled := controller.rollDaily shared.calendar shared.now
  let released := { rolled with locked := none }
  match rolled.persist shared.store saved with
  | .ok store => ({ rolled with locked := some (.rechecking false) }, { shared with store := store })
  | .error (.storeWriteVerification _) =>
    (released.handlePersistFailure.compensate shared false true, shared)
  | .error _ => (released.finishOn none, shared)

/-- After the anchor: apply a captured confirmation, or go on. -/
def afterRecheck (controller : ZoneController) (shared : SharedState) (marker : InFlightOn)
    (confirmed : Bool) (sessionId : String) : ZoneController :=
  match marker.observedOnAtUtc.filter fun _ => !confirmed with
  | some observedAt =>
    controller.decideAndApply shared (.onConfirmed observedAt) .confirmation sessionId
  | none => controller.finishOn (some .looping)

/-! ## Steps -/

/-- The step of an OFF operation in the given phase, if the label moves it there. -/
def offStep (controller : ZoneController) (shared : SharedState) (label : ControllerLabel)
    (sessionId : String) : Option ZoneController :=
  match label with
  | .offServiceReturned operation reading =>
    match controller.offOperations[operation]?.map OffOperation.phase with
    | some (.commanding left) =>
      some (controller.offServiceReturned shared.now operation left reading)
    | _ => none
  | .offProofEnded operation =>
    match controller.offOperations[operation]?.map OffOperation.phase with
    | some (.awaitingProof left) => some (controller.offProofEnded shared.now operation left)
    | _ => none
  | .offAborted operation =>
    match controller.offOperations[operation]?.map OffOperation.phase with
    | some (.commanding _) | some (.awaitingProof _) =>
      some (controller.setOffPhase operation .recovering)
    | _ => none
  | .offDispatch operation =>
    if controller.locked = none then
      match controller.offOperations[operation]?.map OffOperation.phase with
      | some (.settling confirmedAt) =>
        some ((controller.setOffPhase operation (.dispatching confirmedAt)).decideAndApply shared
          (match confirmedAt with
            | some confirmedAt => .offConfirmed confirmedAt
            | none => .offNotConfirmed)
          (.offOperation operation) sessionId)
      | some .recovering =>
        some (controller.decideAndApply shared .offNotConfirmed (.offOperation operation) sessionId)
      | _ => none
    else none
  | _ => none

/-- The event that `_await_slot` dispatches once it owns the slot. -/
def offeredEvent (pendingManual : Option Seconds) : ControllerEvent :=
  match pendingManual with
  | some requestedS => .manualStartRequested (some requestedS)
  | none => .slotGranted

def slotStep (controller : ZoneController) (shared : SharedState) (label : ControllerLabel)
    (sessionId : String) : Option (ZoneController × SharedState) :=
  match label, controller.slotTask with
  | .slotRequest, some .starting =>
    let (slots, request) := shared.slots.request controller.zoneId
    some ({ controller with slotTask := some (.waiting request) }, { shared with slots := slots })
  | .slotResume, some (.waiting request) =>
    if request ∈ shared.slots.granted then
      if controller.runtimeEligible then
        some ({ controller with
          slotTask := some (.offering controller.pendingManual)
          pendingManual := none }, shared)
      else
        some ({ controller with slotTask := none },
          { shared with slots := shared.slots.release controller.zoneId })
    else none
  | .slotOffer, some (.offering pendingManual) =>
    if controller.locked = none then
      some (controller.decideAndApply shared (offeredEvent pendingManual) .slot sessionId, shared)
    else none
  | .slotCancelled, some (.waiting _) =>
    some ({ controller with slotTask := none },
      { shared with slots := shared.slots.cancelRequest controller.zoneId })
  | _, _ => none

def sessionStep (controller : ZoneController) (shared : SharedState) (label : ControllerLabel)
    (sessionId : String) : Option (ZoneController × SharedState) :=
  match label, controller.sessionTask, controller.locked, controller.inflightOn with
  | .wake, some .looping, _, _ => controller.wake.map (·, shared)
  | .gate authority, some .acquiring, none, _ =>
    some (controller.gate shared authority sessionId, shared)
  | .serviceReturned raised authority, some .commanding, _, some marker =>
    some ((controller.recordPossibleCommand marker).recheckOn shared marker authority raised
      fun recorded => { recorded with sessionTask := some .reentering }, shared)
  | .reenter authority, some .reentering, none, some marker =>
    some (controller.recheckOn shared marker authority false fun continued =>
      { continued with
        locked := some .persistingCommand
        sessionTask := some .anchoring }, shared)
  | .anchor saved, some .anchoring, some .persistingCommand, _ =>
    some (controller.anchor shared saved)
  | .recheck authority, some .anchoring, some (.rechecking confirmed), some marker =>
    some ({ controller with locked := none }.recheckOn shared marker authority false
      fun continued => continued.afterRecheck shared marker confirmed sessionId, shared)
  | .offJoined, some (.awaitingOff operation compensating), _, marker =>
    if controller.offOperations[operation]?.any OffOperation.isDone then
      some ({ controller with
        sessionTask := if controller.offError then none else some .looping
        inflightOn := if compensating then none else marker }, shared)
    else none
  | _, _, _, _ => none

def actuatorStep (controller : ZoneController) (shared : SharedState) (label : ControllerLabel)
    (sessionId : String) : Option (ZoneController × SharedState) :=
  match label, controller.locked with
  | .actuatorEvent assessment terminalOn ownContext, _ =>
    some (controller.onActuatorEvent shared.now assessment terminalOn ownContext, shared)
  | .actuatorChange, none =>
    match controller.actuatorChanges with
    | [] => none
    | change :: rest =>
      let taken := { controller with actuatorChanges := rest }
      match taken.handleChange change with
      | .ignored => some (taken, shared)
      | .decided event => some (taken.decideAndApply shared event .event sessionId, shared)
      | .provesOff =>
        some ({ taken with
          locked := some (.provingOff change taken.offOperationActive) }, shared)
  | .provingOff saved, some (.provingOff change offOperationActive) =>
    let released := { controller with locked := none }
    match shared.removeBlocker (controller.safetyRecordId, .actuatorNotProvenOff) saved with
    | (shared, some _) => some (released, shared)
    | (shared, none) =>
      match released.handleProvenOff change offOperationActive with
      | .decided event => some (released.decideAndApply shared event .event sessionId, shared)
      | _ => some (released, shared)
  | _, _ => none

def step (controller : ZoneController) (shared : SharedState) (label : ControllerLabel)
    (sessionId : String) : Option (ZoneController × SharedState) :=
  match label with
  | .dispatch event =>
    if controller.locked = none ∧ event.isInput = true then
      some (controller.decideAndApply shared event .event sessionId, shared)
    else none
  | .moisture observation =>
    if controller.locked = none then
      let observed := { controller with observation := observation }
      if controller.runtimeEligible then
        some (observed.decideAndApply shared (.moistureReport observation) .event sessionId, shared)
      else some (observed, shared)
    else none
  | .setEnabled enabled =>
    if controller.locked = none then
      some ({ controller with enabled := enabled }.decideAndApply shared
        (if enabled then .enableRequested else .disableRequested) .event sessionId, shared)
    else none
  | .act saved =>
    match controller.locked with
    | some (.applying decision input rest applier) =>
      some (controller.act shared saved decision input applier rest)
    | _ => none
  | .actuatorEvent _ _ _ | .actuatorChange | .provingOff _ =>
    controller.actuatorStep shared label sessionId
  | .slotRequest | .slotResume | .slotOffer | .slotCancelled =>
    controller.slotStep shared label sessionId
  | .wake | .gate _ | .serviceReturned _ _ | .reenter _ | .anchor _ | .recheck _ | .offJoined =>
    controller.sessionStep shared label sessionId
  | .offServiceReturned _ _ | .offProofEnded _ | .offAborted _ | .offDispatch _ =>
    (controller.offStep shared label sessionId).map (·, shared)
  | .ensureOff =>
    some (controller.beginOffOperation (controller.session.map SessionContext.pulse), shared)
  | .quiesce => some (controller.beginQuiescing, shared)
  | .updateOwnership zoneHistoryId lifecycle =>
    some (controller.updateRuntimeOwnership zoneHistoryId lifecycle, shared)

end ZoneController

/-! ## The entry -/

/-- The live and retained controllers of one entry, with what they share. -/
structure Entry (κ : Type) where
  controllers : κ → ZoneController
  shared : SharedState

inductive AdmissionChange where
  | enableGrants
  | disableGrants
  | closeAdmission
  | setReconciliation (barrier : ReconciliationBarrier)
  | cancelRequest (zoneId : String)
  deriving DecidableEq, Repr

def AdmissionChange.apply : AdmissionChange → SlotManager → SlotManager
  | .enableGrants, slots => slots.enableGrants
  | .disableGrants, slots => slots.disableGrants
  | .closeAdmission, slots => slots.closeAdmission
  | .setReconciliation barrier, slots => slots.setReconciliation barrier
  | .cancelRequest zoneId, slots => slots.cancelRequest zoneId

inductive EntryLabel (κ : Type) where
  | controller (key : κ) (label : ControllerLabel) (sessionId : String)
  | tick (now : Instant)
  | admission (change : AdmissionChange)
  /-- A transaction of the store that no controller makes; no record is dropped. -/
  | storeChanged (data : StoreData)

namespace Entry

variable {κ : Type} [DecidableEq κ]

def step (entry : Entry κ) : EntryLabel κ → Option (Entry κ)
  | .controller key label sessionId =>
    ((entry.controllers key).step entry.shared label sessionId).map fun (controller, shared) =>
      { controllers := Function.update entry.controllers key controller, shared := shared }
  | .tick now => some { entry with shared := { entry.shared with now := now } }
  | .admission change =>
    some { entry with shared :=
      { entry.shared with slots := change.apply entry.shared.slots } }
  | .storeChanged data =>
    if ∀ safetyRecordId ∈ entry.shared.store.safetyRecords.keys,
        safetyRecordId ∈ data.safetyRecords.keys then
      some { entry with shared := { entry.shared with store := data } }
    else none

def system : LabelledSystem (Entry κ) (EntryLabel κ) := ⟨Entry.step⟩

end Entry

end MoistureLoop
