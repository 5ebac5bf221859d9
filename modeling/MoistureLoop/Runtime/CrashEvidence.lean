import MoistureLoop.Controller.PulseEvidence
import MoistureLoop.Runtime.SoakTrust

/-! # A crash while a pulse flows

Whenever the process dies with an ON command dispatched and the pulse open, the process that
follows finds the pulse in what reached the disk, verified or not: the controller it creates
for the record is attached to the snapshot it loads and restores a session in that pulse,
still open. -/

open MoistureLoop.Action

namespace MoistureLoop

namespace StoreFields

variable {data : StoreFields} {safetyRecordId : String} {pulse : PulseId}

/-- The history that holds an open pulse of a record is the one the record refers to. -/
theorem RecordsOpen.owner (recorded : data.RecordsOpen safetyRecordId pulse)
    (consistent : data.Consistent) :
    ∃ record history persisted, data.safetyRecords.get? safetyRecordId = some record ∧
      data.zoneHistories.get? record.zoneHistoryId = some history ∧
      history.zoneRuntime.session = some persisted ∧
      persisted.ownerSafetyRecordId = safetyRecordId ∧ persisted.context.pulse = pulse ∧
      persisted.context.openPulse = true := by
  obtain ⟨zoneHistoryId, history, persisted, known, held, rfl, same, open'⟩ := recorded
  obtain ⟨record, owns, refers⟩ := consistent.sessionOwner zoneHistoryId history persisted known held
  rw [consistent.historyKey zoneHistoryId history known] at refers
  exact ⟨record, history, persisted, owns, refers ▸ known, held, rfl, same, open'⟩

/-- A write to another history leaves the open pulse where it is. -/
theorem RecordsOpen.of_get? {data' : StoreFields} (recorded : data.RecordsOpen safetyRecordId pulse)
    (consistent : data.Consistent)
    (kept : ∀ record, data.safetyRecords.get? safetyRecordId = some record →
      data'.zoneHistories.get? record.zoneHistoryId =
        data.zoneHistories.get? record.zoneHistoryId) :
    data'.RecordsOpen safetyRecordId pulse := by
  obtain ⟨record, history, persisted, owns, known, held, owner, same, open'⟩ :=
    recorded.owner consistent
  exact ⟨record.zoneHistoryId, history, persisted, (kept record owns).trans known, held, owner,
    same, open'⟩

end StoreFields

namespace ZoneController

variable {controller : ZoneController} {store : StoreData}

/-- A write of another controller goes to another history. -/
theorem recordsOpen_foreign {next : ZoneController} {shared shared' : SharedState}
    {label : ControllerLabel} {safetyRecordId sessionId : String} {pulse : PulseId}
    (stepped : controller.step shared label sessionId = some (next, shared'))
    (apart : controller.writesRuntime label = true → ∀ record,
      shared.store.safetyRecords.get? safetyRecordId = some record →
      controller.zoneHistoryId ≠ record.zoneHistoryId)
    (recorded : shared.store.toStoreFields.RecordsOpen safetyRecordId pulse) :
    shared'.store.toStoreFields.RecordsOpen safetyRecordId pulse := by
  have moved := step_storeMove stepped
  cases writes : controller.writesRuntime label with
  | false =>
    rcases moved.blocker writes with same | ⟨record, reason, active, -, stored⟩
    · rwa [same]
    · rw [stored]
      exact recordsOpen_setRecord recorded
  | true =>
    rw [moved.runtime writes]
    refine recorded.of_get? shared.store.consistent fun record owns => ?_
    have elsewhere := apart writes record owns
    have rolled := controller.rollDaily_sameDecided shared.calendar shared.now
    unfold runtimeWritten
    cases written : (controller.rollDaily shared.calendar shared.now).persistPayload
      shared.store with
    | error err => rfl
    | ok store =>
      unfold persistPayload at written
      split at written
      · cases written
      · obtain ⟨_, _, _, -, -, -, -, stored⟩ := updateControllerRuntime_eq_ok_iff.mp written
        rw [rolled.zoneHistoryId] at stored
        simp only [Except.toOption, Option.getD_some, stored, ControllerUpdate.fields]
        exact Dict.get?_set_of_ne _ _ elsewhere.symm

def WritesApart (controller other : ZoneController) (store : StoreData) : Prop :=
  ∀ record, store.safetyRecords.get? other.safetyRecordId = some record →
    controller.zoneHistoryId ≠ record.zoneHistoryId

theorem writesRuntime_accepted {label : ControllerLabel}
    (writes : controller.writesRuntime label = true) :
    controller.writesRuntime label.accepted = true := by
  cases label with
  | act saved =>
    obtain ⟨rfl, -⟩ := Bool.and_eq_true_iff.mp writes
    exact writes
  | anchor saved => rfl
  | _ => cases writes

/-- Nothing was dispatched yet, and nothing asks for ON. -/
theorem Backed.of_untouched {data : StoreFields} (called : controller.called = [])
    (awaits : controller.awaitsOn = false) (unlocked : controller.locked = none) :
    controller.Backed data := by
  have nothing := ahead_of_unlocked unlocked
  refine ⟨fun _ _ _ mine => ?_, fun _ _ _ mine => ?_, fun _ _ _ _ asks _ => ?_⟩
  · simp [called] at mine
  · simp [called] at mine
  · simp [awaits, nothing] at asks

end ZoneController

/-! ## What the runtime itself writes -/

/-- The records stay, and so do the open pulses. -/
structure StoreFields.KeepsPulses (data data' : StoreFields) : Prop where
  records : ∀ safetyRecordId ∈ data.safetyRecords.keys, safetyRecordId ∈ data'.safetyRecords.keys
  pulses : ∀ safetyRecordId pulse, data.RecordsOpen safetyRecordId pulse →
    data'.RecordsOpen safetyRecordId pulse

namespace StoreFields

variable {data data' : StoreFields}

/-- Both maps are the same. -/
theorem KeepsPulses.of_same (records : data'.safetyRecords = data.safetyRecords)
    (histories : data'.zoneHistories = data.zoneHistories) : data.KeepsPulses data' := by
  refine ⟨fun _ known => records ▸ known, fun _ _ recorded => ?_⟩
  unfold RecordsOpen at recorded ⊢
  rwa [histories]

/-- Only the record changed, and it stays. -/
theorem KeepsPulses.of_setRecord (safetyRecordId : String) (record : SafetyRecord) :
    data.KeepsPulses (data.setRecord safetyRecordId record) :=
  ⟨fun _ known => Dict.mem_keys_set.mpr (.inr known), fun _ _ recorded => recorded⟩

/-- A history in place of one with the same open pulse. -/
theorem KeepsPulses.of_setHistory {zoneHistoryId : String} {before history : ZoneHistory}
    (records : data'.safetyRecords = data.safetyRecords)
    (histories : data'.zoneHistories = data.zoneHistories.set zoneHistoryId history)
    (held : data.zoneHistories.get? zoneHistoryId = some before)
    (kept : ∀ persisted, before.zoneRuntime.session = some persisted →
      ∃ after, history.zoneRuntime.session = some after ∧
        after.ownerSafetyRecordId = persisted.ownerSafetyRecordId ∧
        after.context.pulse = persisted.context.pulse ∧
        after.context.openPulse = persisted.context.openPulse) : data.KeepsPulses data' := by
  refine ⟨fun _ known => records ▸ known, ?_⟩
  rintro safetyRecordId pulse ⟨other, found, persisted, known, session, owner, same, open'⟩
  by_cases here : other = zoneHistoryId
  · subst here
    obtain rfl := Option.some.inj (held.symm.trans known)
    obtain ⟨after, session', owner', same', open''⟩ := kept persisted session
    exact ⟨other, history, after, by rw [histories, Dict.get?_set_self], session',
      owner'.trans owner, same'.trans same, open''.trans open'⟩
  · exact ⟨other, found, persisted, by rw [histories, Dict.get?_set_of_ne _ _ here, known], session,
      owner, same, open'⟩

end StoreFields

def EntryTransaction.rewritesSessions : EntryTransaction → Bool
  | .plan _ _ | .restoreTerminalReason _ _ => true
  | _ => false

/-- The others keep the open pulses. -/
theorem EntryTransaction.keepsPulses {data next : StoreData} {change : EntryTransaction}
    (changed : change.result data = .ok (some next)) (keeps : change.rewritesSessions = false) :
    data.toStoreFields.KeepsPulses next.toStoreFields := by
  cases saves_of_result changed with
  | planned | restored => cases keeps
  | refreshed _ known saved =>
    refine ⟨known, fun safetyRecordId pulse recorded => ?_⟩
    rw [saved]
    exact recorded
  | cleared held saved session =>
    refine .of_setHistory (by rw [saved]; rfl) (by rw [saved]; rfl) held fun persisted opened => ?_
    exact ⟨persisted, session.trans opened, rfl, rfl, rfl⟩
  | resaved saved => exact .of_same (by rw [saved]; rfl) (by rw [saved]; rfl)
  | record _ _ saved =>
    rw [saved]
    exact .of_setRecord _ _

theorem keepsPulses_rebased {data next : StoreData} {safetyRecordId runId : String}
    {persisted : PersistedSession} (soaking : data.soakingSession safetyRecordId = some persisted)
    (rebased : rebaseSoakingOwnerForRecord data safetyRecordId runId = .ok next) :
    data.toStoreFields.KeepsPulses next.toStoreFields := by
  obtain ⟨record, history, found, held, opened⟩ := soakingSession_eq_some soaking
  have fields := rebaseSoakingOwnerForRecord_eq_ok rebased found held
  rw [← data.consistent.historyKey _ _ held] at held
  refine .of_setHistory (by rw [fields]) (by rw [fields]) held fun before session => ?_
  exact ⟨_, congrArg (Option.map _) session, rfl, rfl, rfl⟩

/-! ## The invariant -/

/-- The verified snapshot and the latest write on the disk back the controller. -/
structure Evident (log : List StoredWrite) (memory : StoreData) (controller : ZoneController) :
    Prop where
  known : controller.safetyRecordId ∈ memory.safetyRecords.keys
  memory : controller.Backed memory.toStoreFields
  disk : ∃ write, log.head? = some write ∧ controller.Backed write.data.toStoreFields

/-- They back every attached controller of a process. -/
structure EvidentProcess (log : List StoredWrite) (process : RunningProcess) : Prop where
  logged : ∃ write, log.head? = some write
  evident : ∀ key ∈ process.attached,
    Evident log process.entry.shared.store (process.entry.controllers key)

section Steps

variable {log : List StoredWrite} {process : RunningProcess} {controller next : ZoneController}
  {shared shared' : SharedState} {label : ControllerLabel} {sessionId : String}

/-- A step of the controller itself, with the write that reached the disk. -/
theorem Evident.step (evident : Evident log shared.store controller)
    (builds : controller.StartBuilds shared label) (unused : controller.IsUnused sessionId)
    (stepped : controller.step shared label sessionId = some (next, shared'))
    {log' : List StoredWrite}
    (stored : log' = log ∧ shared'.store.storeRevision = shared.store.storeRevision ∨
      (∃ write, log'.head? = some write ∧ write.data = shared'.store) ∨
      shared'.store.storeRevision = shared.store.storeRevision ∧
        ∃ write accepted shared'', log'.head? = some write ∧ write.data = shared''.store ∧
          controller.step shared label.accepted sessionId = some (accepted, shared'')) :
    Evident log' shared'.store next := by
  have backed := evident.memory.step evident.known builds unused stepped
  refine ⟨?_, backed, ?_⟩
  · rw [(ZoneController.step_sharedMove stepped).records,
      show next.safetyRecordId = controller.safetyRecordId from
        congrArg Prod.snd (ZoneController.step_identity stepped)]
    exact evident.known
  · rcases stored with ⟨rfl, silent⟩ | ⟨write, last, same⟩ |
      ⟨silent, write, accepted, shared'', last, same, moved⟩
    · obtain ⟨write, last, disk⟩ := evident.disk
      exact ⟨write, last, disk.step_stored evident.known builds unused stepped
        (fun _ _ _ => id) fun changed => absurd silent changed⟩
    · exact ⟨write, last, same ▸ backed⟩
    · refine ⟨write, last, same ▸ evident.memory.step_stored evident.known builds unused stepped
        (fun _ held open' => ?_) fun changed => absurd silent changed⟩
      exact (ZoneController.step_storeMove moved).recordsOpen held open'

/-- A write that keeps the open pulse of the controller. -/
theorem Evident.written {data : StoreData} {write : StoredWrite}
    (evident : Evident log shared.store controller)
    (known : controller.safetyRecordId ∈ data.safetyRecords.keys)
    (lasts : controller.Lasts shared.store.toStoreFields data.toStoreFields)
    (same : write.data = data) :
    Evident (write :: log) shared.store controller ∧ Evident (write :: log) data controller := by
  have backed := evident.memory.mono lasts
  have disk : ∃ last, (write :: log).head? = some last ∧
      controller.Backed last.data.toStoreFields := ⟨write, rfl, same ▸ backed⟩
  exact ⟨⟨evident.known, evident.memory, disk⟩, ⟨known, backed, disk⟩⟩

end Steps

/-! ## Steps of a process -/

namespace RunningProcess

variable {process : RunningProcess} {log : List StoredWrite} {next : Entry String}
  {label : EntryLabel String}

/-- A step of the entry writes its store, or nothing, or a refused write was stored. -/
theorem stores_cases (process : RunningProcess) (label : EntryLabel String) (next : Entry String)
    (landed : Bool) :
    process.stores label next landed = [] ∧
        next.shared.store.storeRevision = process.entry.shared.store.storeRevision ∨
      (∃ write, process.stores label next landed = [write] ∧ write.data = next.shared.store) ∨
      next.shared.store.storeRevision = process.entry.shared.store.storeRevision ∧
        ∃ write accepted, process.stores label next landed = [write] ∧
          write.data = accepted.shared.store ∧
          process.entry.step label.accepted = some accepted := by
  by_cases same : next.shared.store.storeRevision = process.entry.shared.store.storeRevision
  · simp only [stores, Entry.writes, same, if_true, List.isEmpty_nil, Bool.true_and]
    cases landed with
    | false => simp
    | true =>
      cases taken : process.entry.step label.accepted with
      | none => simp
      | some accepted =>
        by_cases silent : accepted.shared.store.storeRevision =
          process.entry.shared.store.storeRevision
        · simp [silent]
        · refine .inr (.inr ⟨trivial, ⟨process.runId, .other, accepted.shared.store, false⟩,
            accepted, ?_, rfl, rfl⟩)
          simp [silent]
  · exact .inr (.inl ⟨⟨process.runId, .other, next.shared.store, true⟩,
      by simp [stores, Entry.writes, same], rfl⟩)

/-- The step draws a session ID of its own, does not fail to build the write of a start, and
writes to no history of another attached controller. -/
structure LeavesOpen (process : RunningProcess) (acting : String) (label : ControllerLabel)
    (sessionId : String) : Prop where
  builds : (process.entry.controllers acting).StartBuilds process.entry.shared label
  unused : (process.entry.controllers acting).IsUnused sessionId
  apart : (process.entry.controllers acting).writesRuntime label.accepted = true →
    ∀ key ∈ process.attached, key ≠ acting →
      (process.entry.controllers acting).WritesApart (process.entry.controllers key)
        process.entry.shared.store

/-- A plan, or a terminal reason put back, leaves the open pulses of the attached controllers
and their records. -/
def Preserves (process : RunningProcess) (change : EntryTransaction) : Prop :=
  change.rewritesSessions = true → ∀ data,
    change.result process.entry.shared.store = .ok (some data) → ∀ key ∈ process.attached,
    (process.entry.controllers key).safetyRecordId ∈ data.safetyRecords.keys ∧
      (process.entry.controllers key).Lasts process.entry.shared.store.toStoreFields
        data.toStoreFields

end RunningProcess

namespace EvidentProcess

variable {process : RunningProcess} {log : List StoredWrite} {next : Entry String}
  {label : EntryLabel String}

/-- A controller step, in whatever way its write went. -/
theorem controllerStep {acting : String} {label' : ControllerLabel} {sessionId : String}
    (evident : EvidentProcess log process)
    (attached : acting ∈ process.attached) (leaves : process.LeavesOpen acting label' sessionId)
    (stepped : process.entry.step (.controller acting label' sessionId) = some next)
    (landed : Bool) :
    EvidentProcess (process.stores (.controller acting label' sessionId) next landed ++ log)
      { process with entry := next } := by
  have outcome := process.stores_cases (.controller acting label' sessionId) next landed
  generalize process.stores (.controller acting label' sessionId) next landed = writes at outcome ⊢
  obtain ⟨⟨after, shared⟩, moves, rfl⟩ := Option.map_eq_some_iff.mp stepped
  refine ⟨?_, fun key member => ?_⟩
  · rcases outcome with ⟨rfl, -⟩ | ⟨write, rfl, -⟩ | ⟨-, write, -, rfl, -⟩
    · exact evident.logged
    · exact ⟨write, rfl⟩
    · exact ⟨write, rfl⟩
  · show Evident (writes ++ log) shared.store
      (Function.update process.entry.controllers acting after key)
    by_cases mine : key = acting
    · subst mine
      rw [Function.update_self]
      refine (evident.evident key attached).step leaves.builds leaves.unused moves ?_
      rcases outcome with ⟨rfl, silent⟩ | ⟨write, rfl, same⟩ |
        ⟨silent, write, accepted, rfl, same, taken⟩
      · exact .inl ⟨rfl, silent⟩
      · exact .inr (.inl ⟨write, rfl, same⟩)
      · obtain ⟨⟨_, shared''⟩, moves', rfl⟩ := Option.map_eq_some_iff.mp taken
        exact .inr (.inr ⟨silent, write, _, shared'', rfl, same, moves'⟩)
    · rw [Function.update_of_ne mine]
      have before := evident.evident key member
      have foreign : ∀ label'' after' shared', (process.entry.controllers acting).step
          process.entry.shared label'' sessionId = some (after', shared') →
          ((process.entry.controllers acting).writesRuntime label'' = true →
            (process.entry.controllers acting).writesRuntime label'.accepted = true) →
          (process.entry.controllers key).Backed shared'.store.toStoreFields :=
        fun label'' after' shared' moved writes => before.memory.mono fun _ _ _ =>
          ZoneController.recordsOpen_foreign moved fun wrote =>
            leaves.apart (writes wrote) key member mine
      have memory := foreign label' after shared moves ZoneController.writesRuntime_accepted
      refine ⟨?_, memory, ?_⟩
      · rw [(ZoneController.step_sharedMove moves).records]
        exact before.known
      · rcases outcome with ⟨rfl, -⟩ | ⟨write, rfl, same⟩ | ⟨-, write, accepted, rfl, same, taken⟩
        · exact before.disk
        · exact ⟨write, rfl, same ▸ memory⟩
        · obtain ⟨⟨after', shared''⟩, moves', rfl⟩ := Option.map_eq_some_iff.mp taken
          exact ⟨write, rfl, same ▸ foreign _ after' shared'' moves' id⟩

theorem quietStep (evident : EvidentProcess log process)
    (controllers : next.controllers = process.entry.controllers)
    (store : next.shared.store = process.entry.shared.store) (landed : Bool)
    (stepped : process.entry.step label = some next) (accepted : label.accepted = label) :
    EvidentProcess (process.stores label next landed ++ log) { process with entry := next } := by
  have silent : process.stores label next landed = [] := by
    simp [RunningProcess.stores, Entry.writes, store, accepted, stepped]
  rw [silent]
  refine ⟨evident.logged, fun key member => ?_⟩
  show Evident log next.shared.store (next.controllers key)
  rw [controllers, store]
  exact evident.evident key member

/-- The process after a write of the runtime that keeps the open pulses of its controllers,
whether the process knows of it or not. -/
theorem written {write : StoredWrite} (evident : EvidentProcess log process)
    (keeps : ∀ key ∈ process.attached,
      (process.entry.controllers key).safetyRecordId ∈ write.data.safetyRecords.keys ∧
        (process.entry.controllers key).Lasts process.entry.shared.store.toStoreFields
          write.data.toStoreFields) :
    EvidentProcess (write :: log) process ∧
      EvidentProcess (write :: log) (process.withStore write.data) := by
  have both := fun key member =>
    (evident.evident key member).written (keeps key member).1 (keeps key member).2 rfl
  exact ⟨⟨⟨write, rfl⟩, fun key member => (both key member).1⟩,
    ⟨⟨write, rfl⟩, fun key member => (both key member).2⟩⟩

theorem kept {write : StoredWrite} (evident : EvidentProcess log process)
    (keeps : process.entry.shared.store.toStoreFields.KeepsPulses write.data.toStoreFields) :
    EvidentProcess (write :: log) process ∧
      EvidentProcess (write :: log) (process.withStore write.data) :=
  evident.written fun key member => ⟨keeps.records _ (evident.evident key member).known,
    fun _ _ _ => keeps.pulses _ _⟩

/-- A controller that is created now has dispatched nothing. -/
theorem attach {attached : RunningProcess} {key : String} {creation : Creation}
    {assessment : ActuatorAssessment} {observation : MoistureObservation}
    (evident : EvidentProcess log process)
    (attaching : process.attach key creation assessment observation = some attached) :
    EvidentProcess log attached ∧ key ∈ attached.attached ∧
      (attached.entry.controllers key).called = [] := by
  unfold RunningProcess.attach at attaching
  split at attaching
  · cases attaching
  · rename_i record found
    obtain ⟨controller, made, rfl⟩ := Option.map_eq_some_iff.mp attaching
    obtain ⟨record', history, -, -, held, -, restored⟩ :=
      ZoneController.attach_eq_ok_iff.mp (toOption_eq_some made)
    have untouched : controller.called = [] := by rw [restored]; rfl
    have fresh : ∀ data, controller.Backed data := fun data => by
      refine .of_untouched untouched ?_ ?_ <;> rw [restored] <;> rfl
    refine ⟨⟨evident.logged, fun other member => ?_⟩, List.mem_cons_self,
      by simpa using untouched⟩
    show Evident log process.entry.shared.store
      (Function.update process.entry.controllers key controller other)
    by_cases here : other = key
    · subst here
      rw [Function.update_self]
      obtain ⟨write, last⟩ := evident.logged
      refine ⟨?_, fresh _, write, last, fresh _⟩
      rw [restored]
      exact Dict.isSome_get?_iff.mp (by simp [ZoneController.restore, ZoneController.create, found])
    · rw [Function.update_of_ne here]
      exact evident.evident other ((List.mem_cons.mp member).resolve_left here)

end EvidentProcess

/-! ## Runs of the processes over one store -/

def Process.runs (process : Process) (check : RunningProcess → Bool) : Bool :=
  match process with
  | .running process => check process
  | _ => false

namespace Installation

variable {installation start finish next : Installation}

/-- The controller steps and the transactions of a running process leave the open pulses. -/
def LeavesEvidence (before : Installation) (label : ProcessLabel) (_ : Installation) : Prop :=
  match before.process, label with
  | some (.running process), .entry (.controller acting label' sessionId) _ =>
    process.LeavesOpen acting label' sessionId
  | some (.running process), .transaction change _ => process.Preserves change
  | _, _ => True

/-- Whatever process runs, the snapshots back its controllers. -/
def IsEvident (installation : Installation) : Prop :=
  ∀ process, installation.process = some (.running process) →
    EvidentProcess installation.log process

/-- The process after a write of the runtime, in whatever way the write went. -/
theorem evident_written {process : Process} {log : List StoredWrite} {runId : String}
    {kind : WriteKind} {data : StoreData}
    (evident : ∀ running, process = .running running → EvidentProcess log running ∧
      EvidentProcess (⟨runId, kind, data, false⟩ :: log) running ∧
      EvidentProcess (⟨runId, kind, data, true⟩ :: log) (running.withStore data))
    (outcome : WriteOutcome) {running : RunningProcess}
    (same : process.remember data outcome = .running running) :
    EvidentProcess (written log runId kind data outcome) running := by
  cases process with
  | starting | refused => cases outcome <;> cases same
  | running before =>
    obtain ⟨lost, unverified, verified⟩ := evident before rfl
    cases outcome with
    | lost => exact Process.running.inj same ▸ lost
    | unverified => exact Process.running.inj same ▸ unverified
    | verified => exact Process.running.inj same ▸ verified

section ProcessSteps

variable {process : Process}
  (evident : ∀ running, process = .running running → EvidentProcess installation.log running)

include evident

theorem markCleanShutdown_evident {outcome : WriteOutcome}
    (stepped : installation.processStep process (.markCleanShutdown outcome) = some next) :
    next.IsEvident := by
  intro after running
  simp only [Installation.processStep] at stepped
  obtain ⟨data, marked, rfl⟩ :=
    Option.map_eq_some_iff.mp (Option.ite_none_right_eq_some.mp stepped).2
  have fields := StoreFields.check_eq_ok_iff.mp (toOption_eq_some marked)
  refine evident_written (fun before same => ?_) outcome (Option.some.inj running)
  subst same
  have keeps : before.entry.shared.store.toStoreFields.KeepsPulses data.toStoreFields :=
    .of_same (by rw [fields]; rfl) (by rw [fields]; rfl)
  exact ⟨evident before rfl, ((evident before rfl).kept keeps).1,
    ((evident before rfl).kept keeps).2⟩

/-- A transaction leaves the sessions, or their evidence is the condition's to keep. -/
theorem transaction_evident {change : EntryTransaction} {outcome : WriteOutcome}
    (leaves : LeavesEvidence { installation with process := some process }
      (.transaction change outcome) next)
    (stepped : installation.processStep process (.transaction change outcome) = some next) :
    next.IsEvident := by
  intro after running
  simp only [Installation.processStep] at stepped
  obtain ⟨data, changed, rfl⟩ :=
    Option.map_eq_some_iff.mp (Option.ite_none_right_eq_some.mp stepped).2
  have changed := toOption_eq_some (Option.join_eq_some_iff.mp changed)
  refine evident_written (fun before same => ?_) outcome (Option.some.inj running)
  subst same
  have keeps : ∀ key ∈ before.attached,
      (before.entry.controllers key).safetyRecordId ∈ data.safetyRecords.keys ∧
        (before.entry.controllers key).Lasts before.entry.shared.store.toStoreFields
          data.toStoreFields := by
    intro key member
    cases rewrites : change.rewritesSessions with
    | true => exact leaves rewrites data changed key member
    | false =>
      have kept := EntryTransaction.keepsPulses changed rewrites
      exact ⟨kept.records _ ((evident before rfl).evident key member).known,
        fun _ _ _ => kept.pulses _ _⟩
  exact ⟨evident before rfl, ((evident before rfl).written keeps).1,
    ((evident before rfl).written keeps).2⟩

theorem entry_evident {label : EntryLabel String} {landed : Bool}
    (leaves : LeavesEvidence { installation with process := some process } (.entry label landed)
      next)
    (stepped : installation.processStep process (.entry label landed) = some next) :
    next.IsEvident := by
  intro after running
  cases process with
  | starting | refused => cases stepped
  | running before =>
    simp only [Installation.processStep] at stepped
    obtain ⟨permitted, stepped⟩ := Option.ite_none_right_eq_some.mp stepped
    obtain ⟨entry, moved, rfl⟩ := Option.map_eq_some_iff.mp stepped
    obtain ⟨-, runs⟩ := Bool.and_eq_true_iff.mp permitted
    obtain rfl := Process.running.inj (Option.some.inj running)
    cases label with
    | storeChanged => cases runs
    | tick | admission =>
      have same := moved
      obtain rfl := Option.some.inj moved
      refine (evident before rfl).quietStep ?_ ?_ landed same ?_ <;> rfl
    | controller acting label' sessionId =>
      have member := of_decide_eq_true (Bool.and_eq_true_iff.mp runs).1
      exact (evident before rfl).controllerStep member leaves moved landed

theorem rebase_evident {key : String} {creation : Creation} {assessment : ActuatorAssessment}
    {outcome : WriteOutcome}
    (stepped : installation.processStep process (.rebase key creation assessment outcome) =
      some next) : next.IsEvident := by
  intro after running
  cases process with
  | starting | refused => cases stepped
  | running before =>
    simp only [Installation.processStep] at stepped
    obtain ⟨permitted, stepped⟩ := Option.ite_none_right_eq_some.mp stepped
    obtain ⟨data, rebased, rfl⟩ := Option.map_eq_some_iff.mp stepped
    obtain ⟨persisted, soaking, -⟩ :=
      (Option.any_eq_true _ _).mp (Bool.and_eq_true_iff.mp permitted).2
    have keeps := keepsPulses_rebased soaking (toOption_eq_some rebased)
    obtain rfl := Process.running.inj (Option.some.inj running)
    have both : ∀ verified, EvidentProcess (⟨before.runId,
        .rebased before.entry.shared.store, data, verified⟩ :: installation.log) before ∧
        EvidentProcess (⟨before.runId, .rebased before.entry.shared.store, data, verified⟩ ::
          installation.log) (before.withStore data) :=
      fun verified => (evident before rfl).kept keeps
    cases outcome with
    | lost => exact evident before rfl
    | unverified => exact (both false).1
    | verified =>
      obtain ⟨logged, kept⟩ := (both true).2
      exact ⟨logged, kept⟩

/-- The adoption attaches a controller without a pulse, and its decision writes nothing yet. -/
theorem adopt_evident {assessment : ActuatorAssessment} {observation : MoistureObservation}
    {sessionId : String}
    (stepped : installation.processStep process (.adopt assessment observation sessionId) =
      some next) : next.IsEvident := by
  intro after running
  cases process with
  | starting | refused => cases stepped
  | running before =>
    simp only [Installation.processStep] at stepped
    split at stepped
    · rename_i key creation adopting
      obtain ⟨attached, attaching, moved⟩ := Option.bind_eq_some_iff.mp stepped
      obtain ⟨entry, taken, rfl⟩ := Option.map_eq_some_iff.mp moved
      obtain rfl := Process.running.inj (Option.some.inj running)
      obtain ⟨fresh, member, nothing⟩ := (evident before rfl).attach attaching
      have leaves : attached.LeavesOpen key
          (.dispatch (.startupPersistedSoaking true (some before.runId) none)) sessionId := by
        refine ⟨fun _ _ _ same => ?_, fun pulse mine => ?_, fun writes => ?_⟩
        · cases same
        · simp [nothing] at mine
        · cases writes
      have silent : attached.stores (.controller key
          (.dispatch (.startupPersistedSoaking true (some before.runId) none)) sessionId)
          entry false = [] := by
        obtain ⟨⟨after, shared⟩, dispatched, rfl⟩ := Option.map_eq_some_iff.mp taken
        simp only [ZoneController.step] at dispatched
        obtain ⟨-, rfl⟩ :=
          Prod.mk.inj (Option.some.inj (Option.ite_none_right_eq_some.mp dispatched).2)
        simp [RunningProcess.stores, Entry.writes]
      have kept := fresh.controllerStep member leaves taken false
      rw [silent] at kept
      exact ⟨kept.logged, kept.evident⟩
    · cases stepped

/-- What a process does keeps the evidence of the pulses it commanded. -/
theorem IsEvident.processStep {label : ProcessLabel}
    (leaves : LeavesEvidence { installation with process := some process } label next)
    (stepped : installation.processStep process label = some next) : next.IsEvident := by
  cases label with
  | start | firstInitialize => cases stepped
  | crash =>
    obtain rfl := Option.some.inj stepped
    intro after running
    cases running
  | beginNewRun outcome now calendar =>
    intro after running
    cases process with
    | refused | running => cases stepped
    | starting runId memory =>
      obtain ⟨data, -, rfl⟩ := Option.map_eq_some_iff.mp stepped
      cases outcome with
      | lost | unverified => cases running
      | verified =>
        obtain rfl := Process.running.inj (Option.some.inj running)
        exact ⟨⟨_, rfl⟩, fun key member => by cases member⟩
  | markCleanShutdown outcome => exact markCleanShutdown_evident evident stepped
  | transaction change outcome => exact transaction_evident evident leaves stepped
  | entry label landed => exact entry_evident evident leaves stepped
  | attach key creation assessment observation =>
    intro after running
    cases process with
    | starting | refused => cases stepped
    | running before =>
      simp only [Installation.processStep] at stepped
      obtain ⟨attached, attaching, rfl⟩ :=
        Option.map_eq_some_iff.mp (Option.ite_none_right_eq_some.mp stepped).2
      obtain rfl := Process.running.inj (Option.some.inj running)
      exact ((evident before rfl).attach attaching).1
  | rebase key creation assessment outcome => exact rebase_evident evident stepped
  | adopt assessment observation sessionId => exact adopt_evident evident stepped

end ProcessSteps

theorem IsEvident.step {label : ProcessLabel} (evident : installation.IsEvident)
    (leaves : installation.LeavesEvidence label next)
    (stepped : installation.step label = some next) : next.IsEvident := by
  unfold Installation.step at stepped
  cases held : installation.process with
  | some process =>
    simp only [held] at stepped
    refine IsEvident.processStep (fun running same => evident running (same ▸ held)) ?_ stepped
    rwa [show { installation with process := some process } = installation by rw [← held]]
  | none =>
    simp only [held] at stepped
    intro running now
    cases label with
    | start runId =>
      cases logged : installation.log with
      | nil => simp [logged] at stepped
      | cons write rest =>
        simp only [logged] at stepped
        obtain rfl := Option.some.inj (Option.ite_none_left_eq_some.mp stepped).2
        cases now
    | firstInitialize runId data outcome =>
      obtain rfl := Option.some.inj (Option.ite_none_right_eq_some.mp stepped).2
      cases outcome <;> cases now
    | _ => cases stepped

end Installation

end MoistureLoop
