import MoistureLoop.StateMachine.Zone
import MoistureLoop.Store.Operations

/-! # What is stored of a zone

A verified write of a controller splits its fault slots and stores them with its state, its
flag and its session; a new controller restores them.  In between the planner or the
controller of another record may rewrite what is stored. -/

namespace MoistureLoop

/-- What the store holds of a zone and of the safety record of its actuator. -/
structure StoredZone where
  actuatorFault : Option FaultCode := none
  acknowledgementRequired : Bool := false
  state : ControllerState
  enabled : Bool
  zoneFault : Option FaultCode := none
  secondaryFault : Option FaultCode := none
  session : Option SessionContext := none
  deriving DecidableEq, Repr

/-- The fault pair that `async_attach` restores. -/
def attachedFaults (actuatorFault zoneFault secondaryFault : Option FaultCode) :
    Option FaultCode × Option FaultCode :=
  (actuatorFault.or zoneFault,
    if actuatorFault.isSome then secondaryFault.or zoneFault else secondaryFault)

/-- What a new process loads: of the session the live-only fields are gone. -/
def StoredZone.load (stored : StoredZone) : StoredZone :=
  { stored with session := stored.session.map SessionContext.persisted }

/-- The zone that a new controller restores. -/
def StoredZone.attach (stored : StoredZone) : Zone :=
  let (activeFault, secondaryFault) :=
    attachedFaults stored.actuatorFault stored.zoneFault stored.secondaryFault
  { state := stored.state
    enabled := stored.enabled
    session := stored.session
    activeFault := activeFault
    secondaryFault := secondaryFault }

/-- What a verified write of the controller stores. -/
def Zone.store (zone : Zone) (faults : FaultPartition) : StoredZone where
  actuatorFault := faults.actuatorFault
  acknowledgementRequired := faults.actuatorFault.any FaultCode.requiresUserAck
  state := zone.state
  enabled := zone.enabled
  zoneFault := faults.zoneFault
  secondaryFault := faults.secondaryZoneFault
  session := zone.session

/-- A zone with what is stored of it. -/
structure RecordedZone where
  zone : Zone
  stored : StoredZone
  deriving DecidableEq, Repr

/-- What can happen: a step of the zone, a verified write, a restart, and whatever else
rewrites the record or the stored zone (the planner, an acknowledgement of the record, the
clearing of a configuration fault, the controller of another record of the history). -/
inductive RecordLabel where
  | zone (label : ZoneLabel)
  | persist
  | restart
  | rewritten (actuatorFault : Option FaultCode) (acknowledgementRequired : Bool)
      (state : ControllerState) (enabled : Bool) (zoneFault secondaryFault : Option FaultCode)
      (keepsSession : Bool)
  deriving DecidableEq, Repr

namespace RecordedZone

def step (recorded : RecordedZone) : RecordLabel → Option RecordedZone
  | .zone label => (recorded.zone.step label).map fun zone => { recorded with zone := zone }
  | .persist =>
    match partitionControllerFaults recorded.zone.activeFault recorded.zone.secondaryFault with
    | .error _ => none
    | .ok faults => some { recorded with stored := recorded.zone.store faults }
  | .restart =>
    let stored := recorded.stored.load
    some { recorded with zone := stored.attach, stored := stored }
  | .rewritten actuatorFault acknowledgementRequired state enabled zoneFault secondaryFault
      keepsSession =>
    -- Only the owner of a flowing session writes WATERING or SOAKING with it.
    if keepsSession = true → state ≠ .watering ∧ state ≠ .soaking then
      some { recorded with
        stored :=
          { actuatorFault, acknowledgementRequired, state, enabled, zoneFault, secondaryFault
            session := if keepsSession then recorded.stored.session else none } }
    else none

def system : LabelledSystem RecordedZone RecordLabel := ⟨step⟩

end RecordedZone

end MoistureLoop
