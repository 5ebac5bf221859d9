import MoistureLoop.Controller.OffTurns
import MoistureLoop.Controller.PulseSteps
import MoistureLoop.Controller.SingleWriter
import MoistureLoop.Controller.TurnOnOnce
import MoistureLoop.Runtime.EntryTransactions

/-! # The Stage-1 shutdown of an entry

`async_stage1_shutdown` closes admission before its first await, and then goes over the
controllers: it signals what may be flowing, waits for OFF, writes every state, and marks the
run clean if nothing was found in the way.  Each await is a boundary between two steps, and the
controllers, the other writers of the store and the notifications go on there.  The process has
begun its run before.  What a budget cuts short is left open: the pass may go on from its waits
at any moment, and the session-owner task of a controller may be cancelled. -/

namespace MoistureLoop

/-! ## What the pass reads of a controller -/

/-- `type(err).__name__`. -/
def PyError.typeName : PyError → String
  | .storeWriteVerification _ => "StoreWriteVerificationError"
  | .storeNotLoaded _ => "StoreNotLoadedError"
  | .value _ => "ValueError"
  | .key => "KeyError"

/-- The possible flow is the integration's, or an OFF it has not seen confirmed. -/
def SafetyRecord.integrationHazard (record : SafetyRecord) : Bool :=
  record.possibleFlowOwner = some .integration ||
    decide (.integrationOffUnconfirmed ∈ record.blockerReasons)

namespace ZoneController

variable (controller : ZoneController) (store : StoreData)

/-- `_integration_owned_possible_flow`. -/
def integrationOwnedPossibleFlow : Bool :=
  controller.inflightOn.isSome ||
    (store.safetyRecords.get? controller.safetyRecordId).any SafetyRecord.integrationHazard

/-- `_begin_shutdown_off`: an ON in flight converges first, and an actuator whose identity is
not resolved is never commanded. -/
def beginShutdownOff : ZoneController :=
  if controller.inflightOn.isSome then controller
  else if !controller.integrationOwnedPossibleFlow store then controller
  else if controller.offOperation.isNone &&
      (store.safetyRecords.get? controller.safetyRecordId).any (fun record =>
        record.actuatorIdentity.identityStatus.unresolved) then controller
  else controller.beginOffOperation (controller.session.map SessionContext.pulse)

end ZoneController

/-! ## The pass -/

/-- Why a session is signalled, which is what runs after its event. -/
inductive AfterSignal where
  | watering
  | preserved
  | interfered
  | terminated
  deriving DecidableEq, Repr

/-- Where `_run_stage1_shutdown` stands, with the controllers its loop still has to visit. -/
inductive ShutdownPosition (κ : Type) where
  | signalling (rest : List κ)
  /-- In `async_dispatch`, waiting for the transition lock of the controller. -/
  | dispatching (controller : κ) (event : ControllerEvent) (after : AfterSignal) (rest : List κ)
  /-- The event is being applied. -/
  | applying (controller : κ) (after : AfterSignal) (rest : List κ)
  | converging (rest : List κ)
  | joining
  | persisting (rest : List κ)
  /-- In `async_persist_current_state`. -/
  | writing (controller : κ) (rest : List κ)
  | checking
  | marking
  | reported

/-- One run of `async_stage1_shutdown`.  The last three fields record history and decide
nothing: whose state was written, who was denied its zone and over which snapshot, and what the
hazard check read. -/
structure Stage1Shutdown (κ : Type) where
  snapshot : List κ
  freshZones : Option ImmutableEntrySnapshot
  position : ShutdownPosition κ
  failures : List String := []
  watering : List String := []
  preserved : List String := []
  written : List κ := []
  denied : List (κ × ZoneController × StoreData) := []
  checked : Option (StoreData × (κ → ActuatorAssessment)) := none

/-- `Stage1ShutdownReport`, without the state of Core. -/
structure Stage1ShutdownReport where
  wateringRecords : List String
  preservedSoakingRecords : List String
  failures : List String
  clean : Bool
  deriving DecidableEq, Repr

namespace Stage1Shutdown

variable {κ : Type} (shutdown : Stage1Shutdown κ)

def at' (position : ShutdownPosition κ) : Stage1Shutdown κ :=
  { shutdown with position := position }

def fail (failure : String) : Stage1Shutdown κ :=
  { shutdown with failures := shutdown.failures ++ [failure] }

@[simp] theorem at'_position (position : ShutdownPosition κ) :
    (shutdown.at' position).position = position := rfl

@[simp] theorem at'_snapshot (position : ShutdownPosition κ) :
    (shutdown.at' position).snapshot = shutdown.snapshot := rfl

@[simp] theorem at'_failures (position : ShutdownPosition κ) :
    (shutdown.at' position).failures = shutdown.failures := rfl

@[simp] theorem fail_failures (failure : String) :
    (shutdown.fail failure).failures = shutdown.failures ++ [failure] := rfl

/-- The report of a pass that has ended; `dict.fromkeys` keeps the first of equal failures. -/
def report : Option Stage1ShutdownReport :=
  match shutdown.position with
  | .reported => some
      { wateringRecords := shutdown.watering
        preservedSoakingRecords := shutdown.preserved
        failures := shutdown.failures.reverse.dedup.reverse
        clean := shutdown.failures.isEmpty }
  | _ => none

/-- The controller was signalled as watering, or its soak is preserved. -/
def awaitsProof (controller : ZoneController) : Bool :=
  decide (controller.safetyRecordId ∈ shutdown.watering) ||
    decide (controller.safetyRecordId ∈ shutdown.preserved)

end Stage1Shutdown

/-- An entry with what its gates read, and its shutdown. -/
structure StoppingEntry (κ : Type) where
  entry : Entry κ
  view : EntryView κ
  shutdown : Option (Stage1Shutdown κ) := none

inductive ShutdownLabel (κ : Type) where
  | entry (label : EntryLabel κ)
  /-- A configuration notification, or a step of the reconciliation. -/
  | viewed (view : EntryView κ)
  /-- A transaction of the entry runtime, with the outcome of the backend. -/
  | transaction (change : EntryTransaction) (saved : Bool)
  /-- The write by which the run takes over a trusted soak. -/
  | rebased (safetyRecordId newRunId : String) (saved : Bool)
  /-- `task.cancel()` of `_await_off_within_budget` reaches the session-owner task; the budget
  is the one of this pass, or of the reconciliation that it joins. -/
  | cancelled (key : κ) (authority : OnAuthority) (again : Bool)
  /-- Core runs the shutdown job: the controllers there are, and how the configuration fails to
  be read if it does. -/
  | initiate (snapshot : List κ) (error : String)
  | signal (reading : ActuatorAssessment)
  | dispatch (sessionId : String)
  | dispatched
  | converged
  | joined (error : Option String)
  | visit
  | write (saved : Bool)
  | check (readings : κ → ActuatorAssessment)
  | mark (saved : Bool)
  /-- An await of the pass raised, or the pass was cancelled there. -/
  | interrupted (failure : String)

namespace StoppingEntry

variable {κ : Type} [DecidableEq κ] (state : StoppingEntry κ)

def modify (key : κ) (change : ZoneController → ZoneController) : StoppingEntry κ :=
  { state with entry := { state.entry with
      controllers := Function.update state.entry.controllers key
        (change (state.entry.controllers key)) } }

def withStore (store : StoreData) : StoppingEntry κ :=
  { state with entry := { state.entry with
      shared := { state.entry.shared with store := store } } }

def goOn (shutdown : Stage1Shutdown κ) : StoppingEntry κ :=
  { state with shutdown := some shutdown }

def answers (key : κ) (authority : OnAuthority) : Bool :=
  authority = state.view.onAuthority key (state.entry.controllers key) state.entry.shared.store
    authority.reading

/-- A final gate, and each recheck after it, ask the entry as it is now. -/
def asked : EntryLabel κ → Bool
  | .controller key label _ => label.authority.all (state.answers key)
  | _ => true

/-- The part of `async_stage1_shutdown` before its first await: publication, slot admission and
every controller are closed, and OFF begins wherever no session has to decide about it. -/
def initiate (snapshot : List κ) (error : String) : StoppingEntry κ :=
  let store := state.entry.shared.store
  let slots := state.entry.shared.slots
  let barrier := { slots.reconciliation with dirty := true, reconciling := false }
  { entry :=
      { controllers := fun key =>
          let controller := state.entry.controllers key
          if key ∈ snapshot then
            if controller.state = .watering ∨ controller.state = .soaking then
              controller.beginQuiescing
            else controller.beginQuiescing.beginShutdownOff store
          else controller
        shared := { state.entry.shared with
          slots := (slots.setReconciliation barrier).closeAdmission } }
    view := { state.view with processStopping := true, stopping := true, dirty := true }
    shutdown := some
      { snapshot := snapshot
        freshZones := state.view.freshSnapshot
        position := .signalling snapshot
        failures := match state.view.freshSnapshot with
          | some _ => []
          | none => ["configuration_snapshot:" ++ error] } }

/-- The soak is of an ACTIVE zone whose configuration is the one applied. -/
def soakEligible (shutdown : Stage1Shutdown κ) (key : κ) : Bool :=
  let controller := state.entry.controllers key
  match state.entry.shared.store.safetyRecords.get? controller.safetyRecordId,
      state.view.bindings.get? controller.zoneId, state.view.appliedConfig key,
      shutdown.freshZones.bind fun fresh => fresh.bySubentryId controller.zoneId with
  | some record, some binding, some applied, some zone =>
    decide (record.runtimeLifecycle = .active) &&
      decide (record.activeSubentryId = some controller.zoneId) &&
      decide (binding.controller = key) &&
      decide (zone.configFingerprint = applied.configFingerprint)
  | _, _, _, _ => false

/-- `_soaking_shutdown_outcome`. -/
def soakingShutdownOutcome (shutdown : Stage1Shutdown κ) (key : κ)
    (live : ActuatorAssessment) : ControllerEvent × AfterSignal :=
  if live.observedOn || !live.provenOff then
    -- Unavailable is not OFF, and no new command is possible.
    if !live.available then (.actuatorBecameUnavailable, .terminated)
    else (.externalActuatorOn, .interfered)
  else if state.soakEligible shutdown key then (.homeAssistantShutdown, .preserved)
  else (.configChangedPrepare, .terminated)

/-- One turn of the second loop, up to its await. -/
def signal (shutdown : Stage1Shutdown κ) (key : κ) (rest : List κ)
    (reading : ActuatorAssessment) : StoppingEntry κ :=
  let controller := state.entry.controllers key
  match controller.state with
  | .watering =>
    state.goOn { shutdown with
      watering := shutdown.watering ++ [controller.safetyRecordId]
      position := .dispatching key .homeAssistantShutdown .watering rest }
  | .soaking =>
    let (event, after) := state.soakingShutdownOutcome shutdown key reading
    (state.modify key ({ · with assessment := reading })).goOn
      (shutdown.at' (.dispatching key event after rest))
  | _ => state.goOn (shutdown.at' (.signalling rest))

/-- What follows the dispatch of a session's event. -/
def afterSignal (shutdown : Stage1Shutdown κ) (key : κ) (rest : List κ) :
    AfterSignal → StoppingEntry κ
  | .watering =>
    let begun := if (state.entry.controllers key).inflightOn.isNone then
        state.modify key fun controller =>
          controller.beginOffOperation (controller.session.map SessionContext.pulse)
      else state
    begun.goOn (shutdown.at' (.signalling rest))
  | .preserved =>
    state.goOn { shutdown with
      preserved := shutdown.preserved ++ [(state.entry.controllers key).safetyRecordId]
      position := .signalling rest }
  | .interfered =>
    (state.modify key (·.beginShutdownOff state.entry.shared.store)).goOn
      (shutdown.at' (.signalling rest))
  | .terminated => state.goOn (shutdown.at' (.signalling rest))

/-- One turn of the loop that writes what the controllers are in. -/
def visit (shutdown : Stage1Shutdown κ) (key : κ) (rest : List κ) : StoppingEntry κ :=
  let controller := state.entry.controllers key
  if controller.persistFailed then
    state.goOn ((shutdown.fail ("safety_write_failed:" ++ controller.safetyRecordId)).at'
      (.persisting rest))
  else if !controller.ownsZoneRuntime state.entry.shared.store then
    state.goOn { shutdown with
      denied := (key, controller, state.entry.shared.store) :: shutdown.denied
      position := .persisting rest }
  else state.goOn (shutdown.at' (.writing key rest))

/-- `async_persist_current_state`, which absorbs nothing but a failed write. -/
def write (shutdown : Stage1Shutdown κ) (key : κ) (rest : List κ) (saved : Bool) :
    StoppingEntry κ :=
  let shared := state.entry.shared
  let rolled := (state.entry.controllers key).rollDaily shared.calendar shared.now
  let persisting := state.modify key fun _ => rolled
  match rolled.persist shared.store saved with
  | .ok store =>
    (persisting.withStore store).goOn { shutdown with
      written := key :: shutdown.written
      position := .persisting rest }
  | .error (.storeWriteVerification _) =>
    persisting.goOn ((shutdown.fail ("safety_write_failed:" ++ rolled.safetyRecordId)).at'
      (.persisting rest))
  | .error err =>
    persisting.goOn ((shutdown.fail ("stage1_failed:" ++ err.typeName)).at' .reported)

/-- The records that keep the run from being clean. -/
def hazardFailures : List String :=
  (state.entry.shared.store.safetyRecords.values.filter SafetyRecord.integrationHazard).map
    fun record => "integration_off_unconfirmed:" ++ record.safetyRecordId

/-- The controllers whose actuator is not proven OFF although it has to be. -/
def unprovenFailures (shutdown : Stage1Shutdown κ) (readings : κ → ActuatorAssessment) :
    List String :=
  (shutdown.snapshot.filter fun key =>
    shutdown.awaitsProof (state.entry.controllers key) && !(readings key).provenOff).map
      fun key => "terminal_off_not_proven:" ++ (state.entry.controllers key).safetyRecordId

/-- The clean-run aggregation. -/
def check (shutdown : Stage1Shutdown κ) (readings : κ → ActuatorAssessment) :
    StoppingEntry κ :=
  let failures := shutdown.failures ++ state.hazardFailures ++
    state.unprovenFailures shutdown readings
  { state with
    entry := { state.entry with
      controllers := fun key =>
        let controller := state.entry.controllers key
        if key ∈ shutdown.snapshot ∧ shutdown.awaitsProof controller = true then
          { controller with assessment := readings key }
        else controller }
    shutdown := some { shutdown with
      failures := failures
      checked := some (state.entry.shared.store, readings)
      position := if failures.isEmpty then .marking else .reported } }

/-- `async_mark_clean_shutdown` with the outcome of the backend. -/
def mark (shutdown : Stage1Shutdown κ) (saved : Bool) : StoppingEntry κ :=
  match (markCleanShutdown state.entry.shared.store).bind (saveAndVerify · saved) with
  | .ok store => (state.withStore store).goOn (shutdown.at' .reported)
  | .error (.storeWriteVerification message) =>
    state.goOn ((shutdown.fail ("clean_marker_write_failed:" ++
      (PyError.storeWriteVerification message).typeName)).at' .reported)
  | .error err => state.goOn ((shutdown.fail ("stage1_failed:" ++ err.typeName)).at' .reported)

/-- A step of the pass. -/
def pass (shutdown : Stage1Shutdown κ) : ShutdownLabel κ → Option (StoppingEntry κ)
  | .signal reading =>
    match shutdown.position with
    | .signalling (key :: rest) => some (state.signal shutdown key rest reading)
    | .signalling [] => some (state.goOn (shutdown.at' (.converging shutdown.snapshot)))
    | _ => none
  | .dispatch sessionId =>
    match shutdown.position with
    | .dispatching key event after rest =>
      if (state.entry.controllers key).locked = none then
        some ((state.modify key fun controller =>
          controller.decideAndApply state.entry.shared event .event sessionId).goOn
            (shutdown.at' (.applying key after rest)))
      else none
    | _ => none
  | .dispatched =>
    match shutdown.position with
    | .applying key after rest =>
      if (state.entry.controllers key).locked = none then
        some (state.afterSignal shutdown key rest after)
      else none
    | _ => none
  | .converged =>
    match shutdown.position with
    | .converging (_ :: rest) => some (state.goOn (shutdown.at' (.converging rest)))
    | .converging [] => some (state.goOn (shutdown.at' .joining))
    | _ => none
  | .joined error =>
    match shutdown.position with
    | .joining =>
      let joined := match error with
        | some error => shutdown.fail ("reconciliation_handoff:" ++ error)
        | none => shutdown
      some (state.goOn (joined.at' (.persisting shutdown.snapshot)))
    | _ => none
  | .visit =>
    match shutdown.position with
    | .persisting (key :: rest) => some (state.visit shutdown key rest)
    | .persisting [] => some (state.goOn (shutdown.at' .checking))
    | _ => none
  | .write saved =>
    match shutdown.position with
    | .writing key rest =>
      if (state.entry.controllers key).locked = none then
        some (state.write shutdown key rest saved)
      else none
    | _ => none
  | .check readings =>
    match shutdown.position with
    | .checking => some (state.check shutdown readings)
    | _ => none
  | .mark saved =>
    match shutdown.position with
    | .marking => some (state.mark shutdown saved)
    | _ => none
  | .interrupted failure =>
    match shutdown.position with
    | .reported => none
    | _ => some (state.goOn ((shutdown.fail failure).at' .reported))
  | _ => none

def step (state : StoppingEntry κ) (label : ShutdownLabel κ) : Option (StoppingEntry κ) :=
  match label with
  | .entry (.storeChanged _) => none
  | .entry label =>
    if state.asked label then
      (state.entry.step label).map fun entry => { state with entry := entry }
    else none
  | .viewed view =>
    -- Nothing takes back that the process or its coordinator is stopping.
    if view.processStopping = state.view.processStopping ∧
        (state.view.stopping = true → view.stopping = true) then
      some { state with view := view }
    else none
  | .transaction change saved =>
    match change.result state.entry.shared.store with
    | .ok (some data) => (saveAndVerify data saved).toOption.map state.withStore
    | _ => none
  | .rebased safetyRecordId newRunId saved =>
    match rebaseSoakingOwnerForRecord state.entry.shared.store safetyRecordId newRunId with
    | .ok data => (saveAndVerify data saved).toOption.map state.withStore
    | .error _ => none
  | .cancelled key authority again =>
    if state.answers key authority then
      some (state.modify key (·.cancelSessionTask state.entry.shared authority again))
    else none
  | .initiate snapshot error =>
    match state.shutdown with
    -- Repeated initiation joins the operation there is.
    | some _ => some state
    | none => some (state.initiate snapshot error)
  | label => state.shutdown.bind fun shutdown => state.pass shutdown label

def system : LabelledSystem (StoppingEntry κ) (ShutdownLabel κ) := ⟨step⟩

end StoppingEntry

end MoistureLoop
