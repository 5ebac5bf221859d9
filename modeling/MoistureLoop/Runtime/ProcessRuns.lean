import MoistureLoop.Controller.Attach
import MoistureLoop.Controller.SessionOwner
import MoistureLoop.Controller.SingleWriter
import MoistureLoop.Runtime.EntryTransactions

/-! # Runs of the process over one store

A process loads the store, begins a run under an ID of its own, and works on the snapshot it
verified last.  A write may reach the disk without being verified; then the process goes on
with the snapshot it had.  A crash may follow every step.  The log is what reached the disk,
the latest write first, each with the process that wrote it. -/

open MoistureLoop.Action

namespace MoistureLoop

/-! ## Writes -/

inductive WriteOutcome where
  | verified
  /-- The payload was stored, and the read-back failed. -/
  | unverified
  | lost
  deriving DecidableEq, Repr

/-- What a write was for; a rebase remembers the snapshot it was computed from. -/
inductive WriteKind where
  | initialized
  | begun
  | marked
  | rebased (base : StoreData)
  | other

namespace WriteKind

def isBegun : WriteKind → Bool
  | begun => true
  | _ => false

def isMarked : WriteKind → Bool
  | marked => true
  | _ => false

end WriteKind

structure StoredWrite where
  writer : String
  kind : WriteKind
  data : StoreData
  verified : Bool

def written (log : List StoredWrite) (writer : String) (kind : WriteKind) (data : StoreData) :
    WriteOutcome → List StoredWrite
  | .verified => ⟨writer, kind, data, true⟩ :: log
  | .unverified => ⟨writer, kind, data, false⟩ :: log
  | .lost => log

/-- The runs that began, the latest first: those whose ID was verified. -/
def begunRuns (log : List StoredWrite) : List String :=
  (log.filter fun write => write.kind.isBegun && write.verified).map StoredWrite.writer

/-- The snapshot a new process loads. -/
def StoreData.load (data : StoreData) : StoreData :=
  ⟨data.toStoreFields.persisted, StoreFields.holds_guards_iff.mpr data.consistent.persisted⟩

/-! ## Processes -/

/-- A process whose run has begun.  While it adopts a soak no other coroutine runs: nothing
is awaited between the verified rebase and the decision. -/
structure RunningProcess where
  runId : String
  previous : RunIds
  entry : Entry String
  attached : List String := []
  adopting : Option (String × Creation) := none

namespace RunningProcess

def withStore (process : RunningProcess) (store : StoreData) : RunningProcess :=
  { process with entry :=
      { process.entry with shared := { process.entry.shared with store := store } } }

/-- The process after a rebase; without a verified write it adopts nothing. -/
def rebased (process : RunningProcess) (data : StoreData) (key : String) (creation : Creation) :
    WriteOutcome → RunningProcess
  | .verified => { process.withStore data with adopting := some (key, creation) }
  | _ => process

/-- Create the controller of a record and attach it. -/
def attach (process : RunningProcess) (key : String) (creation : Creation)
    (assessment : ActuatorAssessment) (observation : MoistureObservation) :
    Option RunningProcess :=
  match process.entry.shared.store.safetyRecords.get? creation.safetyRecordId with
  | none => none
  | some record =>
    ((ZoneController.create creation process.runId record).attach process.entry.shared.store
      assessment observation).toOption.map fun controller =>
        { process with
          attached := key :: process.attached
          entry := { process.entry with
            controllers := Function.update process.entry.controllers key controller } }

/-- The controllers of a run that has just begun; none of them is attached. -/
def vacant (runId : String) : ZoneController where
  zoneId := ""
  safetyRecordId := ""
  zoneHistoryId := ""
  runId := runId
  configFingerprint := ""
  config := sampleConfig "" ""
  daily := ⟨0, 0⟩

def begin' (runId : String) (previous : RunIds) (data : StoreData) (now : Instant)
    (calendar : LocalCalendar) : RunningProcess where
  runId := runId
  previous := previous
  entry :=
    { controllers := fun _ => vacant runId
      shared := { calendar := calendar, now := now, slots := {}, store := data } }

end RunningProcess

inductive Process where
  /-- The store is loaded and the run has not begun. -/
  | starting (runId : String) (memory : StoreData)
  /-- The new run ID could not be verified. -/
  | refused (runId : String) (memory : StoreData)
  | running (process : RunningProcess)

namespace Process

def runId : Process → String
  | starting runId _ | refused runId _ => runId
  | running process => process.runId

/-- The snapshot that the process verified last. -/
def memory : Process → StoreData
  | starting _ memory | refused _ memory => memory
  | running process => process.entry.shared.store

def suspended : Process → Bool
  | running process => process.adopting.isNone
  | _ => true

/-- The process after it wrote a first snapshot. -/
def opened (runId : String) (data : StoreData) : WriteOutcome → Option Process
  | .verified => some (starting runId data)
  | _ => none

def begun (runId : String) (memory data : StoreData) (now : Instant) (calendar : LocalCalendar) :
    WriteOutcome → Process
  | .verified => running (.begin' runId memory.run data now calendar)
  | _ => refused runId memory

def remember (process : Process) (data : StoreData) : WriteOutcome → Process
  | .verified =>
    match process with
    | starting runId _ => starting runId data
    | refused runId _ => refused runId data
    | running process => running (process.withStore data)
  | _ => process

end Process

/-! ## Trust in a persisted soak -/

/-- `_session_structure_valid`. -/
def sessionStructureValid (session : SessionContext) : Bool :=
  session.mode = .auto &&
    match session.soakEndsAtUtc, session.recheckNotBeforeUtc, session.recheckGraceDeadlineAtUtc with
    | some soak, some recheck, some grace =>
      recheck = soak && decide (soak ≤ grace) &&
        session.offConfirmedAtUtc.any fun off => decide (off ≤ soak)
    | _, _, _ => false

/-- The trust checks of `_reconcile_soaking`. -/
def soakTrusted (previous : RunIds) (session : SessionContext) (configFingerprint : String)
    (assessment : ActuatorAssessment) : Bool :=
  previous.previousRunWasClean && session.ownerRunId = previous.activeRunId &&
    sessionStructureValid session && session.configFingerprint = configFingerprint &&
    assessment.available && assessment.provenOff

/-- The session that a controller made for the record would adopt. -/
def StoreFields.soakingSession (data : StoreFields) (safetyRecordId : String) :
    Option PersistedSession :=
  match data.safetyRecords.get? safetyRecordId with
  | none => none
  | some record =>
    match data.zoneHistories.get? record.zoneHistoryId with
    | none => none
    | some history => if history.zoneRuntime.state = .soaking then history.zoneRuntime.session else none

/-! ## Steps -/

/-- The same step with its write accepted. -/
def ControllerLabel.accepted : ControllerLabel → ControllerLabel
  | .act _ => .act true
  | .provingOff _ => .provingOff true
  | .anchor _ => .anchor true
  | label => label

def EntryLabel.accepted : EntryLabel String → EntryLabel String
  | .controller key label sessionId => .controller key label.accepted sessionId
  | label => label

/-- The entry takes the step in a process with these controllers attached: time, admission,
and what an attached controller does on its own. -/
def EntryLabel.runsIn (attached : List String) : EntryLabel String → Bool
  | .controller key label _ => key ∈ attached && label.adopts.isNone
  | .tick _ | .admission _ => true
  | .storeChanged _ => false

def Entry.writes (runId : String) (entry next : Entry String) (verified : Bool) :
    List StoredWrite :=
  if next.shared.store.storeRevision = entry.shared.store.storeRevision then []
  else [⟨runId, .other, next.shared.store, verified⟩]

/-- What a step of the entry puts on the disk; a refused write may have been stored. -/
def RunningProcess.stores (process : RunningProcess) (label : EntryLabel String)
    (next : Entry String) (landed : Bool) : List StoredWrite :=
  let own := process.entry.writes process.runId next true
  if own.isEmpty && landed then
    match process.entry.step label.accepted with
    | some accepted => process.entry.writes process.runId accepted false
    | none => []
  else own

/-- The store with everything the processes over it have done. -/
structure Installation where
  log : List StoredWrite := []
  runIds : List String := []
  process : Option Process := none

inductive ProcessLabel where
  /-- A process loads the store. -/
  | start (runId : String)
  /-- A process finds no usable store and writes one without sessions. -/
  | firstInitialize (runId : String) (data : StoreData) (outcome : WriteOutcome)
  | beginNewRun (outcome : WriteOutcome) (now : Instant) (calendar : LocalCalendar)
  | markCleanShutdown (outcome : WriteOutcome)
  /-- A step of the entry; `landed` says that a refused write was stored all the same. -/
  | entry (label : EntryLabel String) (landed : Bool)
  | transaction (change : EntryTransaction) (outcome : WriteOutcome)
  | attach (key : String) (creation : Creation) (assessment : ActuatorAssessment)
      (observation : MoistureObservation)
  | rebase (key : String) (creation : Creation) (assessment : ActuatorAssessment)
      (outcome : WriteOutcome)
  | adopt (assessment : ActuatorAssessment) (observation : MoistureObservation)
      (sessionId : String)
  | crash

namespace Installation

def processStep (installation : Installation) (process : Process) :
    ProcessLabel → Option Installation
  | .beginNewRun outcome now calendar =>
    match process with
    | .starting runId memory =>
      (MoistureLoop.beginNewRun memory runId).toOption.map fun data =>
        { installation with
          log := written installation.log runId .begun data outcome
          process := some (.begun runId memory data now calendar outcome) }
    | _ => none
  | .markCleanShutdown outcome =>
    if process.suspended then
      (MoistureLoop.markCleanShutdown process.memory).toOption.map fun data =>
        { installation with
          log := written installation.log process.runId .marked data outcome
          process := some (process.remember data outcome) }
    else none
  | .transaction change outcome =>
    if process.suspended && change.restored.all fun ids =>
        installation.log.any fun write => ids ∈ write.data.sessions then
      (change.result process.memory).toOption.join.map fun data =>
        { installation with
          log := written installation.log process.runId .other data outcome
          process := some (process.remember data outcome) }
    else none
  | .entry label landed =>
    match process with
    | .running running =>
      if running.adopting.isNone && label.runsIn running.attached then
        (running.entry.step label).map fun next =>
          { installation with
            log := running.stores label next landed ++ installation.log
            process := some (.running { running with entry := next }) }
      else none
    | _ => none
  | .attach key creation assessment observation =>
    match process with
    | .running running =>
      if running.adopting.isNone then
        (running.attach key creation assessment observation).map fun attached =>
          { installation with process := some (.running attached) }
      else none
    | _ => none
  | .rebase key creation assessment outcome =>
    match process with
    | .running running =>
      if running.adopting.isNone && (running.entry.shared.store.soakingSession
          creation.safetyRecordId).any fun persisted =>
            soakTrusted running.previous persisted.context creation.configFingerprint assessment then
        (rebaseSoakingOwnerForRecord running.entry.shared.store creation.safetyRecordId
          running.runId).toOption.map fun data =>
            { installation with
              log := written installation.log running.runId
                (.rebased running.entry.shared.store) data outcome
              process := some (.running (running.rebased data key creation outcome)) }
      else none
    | _ => none
  | .adopt assessment observation sessionId =>
    match process with
    | .running running =>
      match running.adopting with
      | some (key, creation) =>
        (running.attach key creation assessment observation).bind fun attached =>
          (attached.entry.step (.controller key
            (.dispatch (.startupPersistedSoaking true (some running.runId) none)) sessionId)).map
              fun next =>
                { installation with
                  process := some (.running { attached with entry := next, adopting := none }) }
      | none => none
    | _ => none
  | .crash => some { installation with process := none }
  | .start _ | .firstInitialize _ _ _ => none

def step (installation : Installation) (label : ProcessLabel) : Option Installation :=
  match installation.process with
  | some process => installation.processStep process label
  | none =>
    match label with
    | .start runId =>
      match installation.log with
      | [] => none
      | write :: _ =>
        if runId ∈ installation.runIds then none
        else some { installation with
          runIds := runId :: installation.runIds
          process := some (.starting runId write.data.load) }
    | .firstInitialize runId data outcome =>
      if runId ∉ installation.runIds ∧ data.sessions = [] ∧ data.run = ⟨none, none⟩ then
        some
          { log := written installation.log runId .initialized data outcome
            runIds := runId :: installation.runIds
            process := Process.opened runId data outcome }
      else none
    | _ => none

def system : LabelledSystem Installation ProcessLabel := ⟨step⟩

end Installation

end MoistureLoop
