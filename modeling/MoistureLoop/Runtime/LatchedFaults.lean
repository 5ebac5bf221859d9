import MoistureLoop.Controller.Simulation
import MoistureLoop.Runtime.Lineage
import MoistureLoop.Runtime.ProcessRuns
import MoistureLoop.StateMachine.FaultLatch

/-! # Faults on record

A fault that has to be acknowledged is stored with the safety record of its actuator.  The
controller of the record writes it with every write of its own, and a new controller takes it
from there.  Whatever else is written, by the planner, by the runtime and by the controllers of
other records, leaves the fault of the record alone; only an acknowledgement takes it off. -/

namespace MoistureLoop

open Checked (Holds)

/-! ## What the writers leave of a fault -/

def StoreFields.SameFault (safetyRecordId : String) (data next : StoreFields) : Prop :=
  ∀ record, data.safetyRecords.get? safetyRecordId = some record →
    ∃ after, next.safetyRecords.get? safetyRecordId = some after ∧ record.SameFault after

theorem StoreFields.SameFault.of_records {safetyRecordId : String} {data next : StoreFields}
    (same : next.safetyRecords.get? safetyRecordId = data.safetyRecords.get? safetyRecordId) :
    data.SameFault safetyRecordId next :=
  fun record found => ⟨record, same.trans found, ⟨rfl, rfl⟩⟩

theorem StoreFields.sameFault_setRecord {safetyRecordId k : String} {data : StoreFields}
    {record : SafetyRecord}
    (same : k = safetyRecordId → ∀ before, data.safetyRecords.get? k = some before →
      before.SameFault record) : data.SameFault safetyRecordId (data.setRecord k record) := by
  by_cases own : k = safetyRecordId
  · subst own
    exact fun before found => ⟨record, Dict.get?_set_self _ _ _, same rfl before found⟩
  · exact .of_records (Dict.get?_set_of_ne _ _ (Ne.symm own))

/-! ## Acknowledgements -/

def StoreFields.provenOffOnRecord (data : StoreFields) (safetyRecordId : String) : Bool :=
  (data.safetyRecords.get? safetyRecordId).any fun record =>
    decide (record.runtimeLifecycle = .retired) && record.blockerReasons.isEmpty &&
      record.possibleFlowOwner.isNone && record.identityIncident.isNone &&
      !record.actuatorIdentity.identityStatus.unresolved

/-- The exact-record acknowledgement is accepted only on that evidence. -/
theorem provenOffOnRecord_of_acknowledge {data next : StoreData}
    {safetyRecordId safetyLineageId : String} {expectedFault : FaultCode}
    (acknowledged : acknowledgeActuatorFault data safetyRecordId safetyLineageId expectedFault =
      .ok next) : data.provenOffOnRecord safetyRecordId = true := by
  unfold acknowledgeActuatorFault at acknowledged
  cases found : data.safetyRecords.get? safetyRecordId with
  | none => simp [found] at acknowledged
  | some record =>
    simp only [found] at acknowledged
    split at acknowledged
    · cases acknowledged
    · rename_i passed
      have passed := Checked.raiseFirst_eq_ok_iff.mp passed
      simp only [Checked.holds_cons, Bool.or_eq_false_iff, decide_eq_false_iff_not, not_not] at passed
      obtain ⟨-, -, -, ⟨incident, status⟩, ⟨⟨blockers, owner⟩, -⟩, lifecycle, -⟩ := passed
      simp only [StoreFields.provenOffOnRecord, found, Option.any_some, Bool.and_eq_true,
        decide_eq_true_eq, List.isEmpty_iff, Bool.not_eq_true']
      exact ⟨⟨⟨⟨lifecycle, blockers⟩, by simpa using owner⟩, by simpa using incident⟩, status⟩

namespace EntryTransaction

def acknowledgesRecord (safetyRecordId : String) : EntryTransaction → Bool
  | .acknowledgeActuatorFault target _ _ => target = safetyRecordId
  | _ => false

def mintsOthers (safetyRecordId : String) : EntryTransaction → Bool
  | .plan env snapshot => snapshot.zones.all fun zone =>
      decide (safetyRecordId ≠ (env.mint zone.subentryId).safetyRecordId)
  | _ => true

theorem sameFault {data next : StoreData} {change : EntryTransaction} {safetyRecordId : String}
    (changed : change.result data = .ok (some next))
    (minted : change.mintsOthers safetyRecordId = true)
    (other : change.acknowledgesRecord safetyRecordId = false) :
    data.SameFault safetyRecordId next.toStoreFields := by
  cases saves_of_result changed with
  | planned outcome saved =>
    intro record found
    rw [saved]
    refine planReconciledStore_sameFault (fun zone member => ?_) outcome found
    exact of_decide_eq_true (List.all_eq_true.mp minted zone member)
  | refreshed reconciled =>
    intro record found
    obtain ⟨active, retained⟩ := record_of_refreshTombstones reconciled found
    by_cases lifecycle : record.runtimeLifecycle = .active
    · exact ⟨record, active lifecycle, ⟨rfl, rfl⟩⟩
    · obtain ⟨history, after, -, reconciled, stored⟩ := retained lifecycle
      exact ⟨after, stored, reconcileRetainedRecord_sameFault reconciled⟩
  | restored saved | cleared _ saved | resaved saved => exact .of_records (by rw [saved]; rfl)
  | record target held saved =>
    rw [saved]
    refine StoreFields.sameFault_setRecord fun own before found => ?_
    obtain rfl := Option.some.inj (held.symm.trans found)
    -- Only the acknowledgement of its fault changes the fault of a record.
    cases change with
    | acknowledgeActuatorFault acknowledged =>
      obtain rfl := Option.some.inj target
      exact absurd own (of_decide_eq_false other)
    | _ => exact ⟨rfl, rfl⟩

end EntryTransaction

/-! ## Runs -/

/-- A safety record with the controller that is attached for it, if one is, the snapshot that
the process verified last, and the one on the disk; `latched` says that a fault which has to be
acknowledged was recorded and no acknowledgement has been accepted since. -/
structure LatchedRecord where
  controller : Option Zone := none
  memory : StoreData
  disk : StoreData
  latched : Bool := false

/-- What can happen: a step or a write of the controller, a write of another record's, a
transaction of the runtime, the run-ID protocol and the rebase of a soak, a controller that is
attached or released, and a restart. -/
inductive LatchLabel where
  | zone (label : ZoneLabel)
  | persist (zoneHistoryId : String) (update : ControllerUpdate) (outcome : WriteOutcome)
  | persistOther (other zoneHistoryId : String) (update : ControllerUpdate)
      (outcome : WriteOutcome)
  | transaction (change : EntryTransaction) (outcome : WriteOutcome)
  | beginNewRun (runId : String) (outcome : WriteOutcome)
  | markCleanShutdown (outcome : WriteOutcome)
  | rebase (target runId : String) (outcome : WriteOutcome)
  | attach (creation : Creation) (runId : String) (assessment : ActuatorAssessment)
      (observation : MoistureObservation)
  | release
  | restart

/-- The arguments of `_persist_locked` are what the zone holds. -/
def ControllerUpdate.Shows (update : ControllerUpdate) (zone : Zone) : Prop :=
  update.state = zone.state ∧ update.enabled = zone.enabled ∧ update.session = zone.session ∧
    update.activeFault = zone.activeFault ∧ update.secondaryFault = zone.secondaryFault

instance (update : ControllerUpdate) (zone : Zone) : Decidable (update.Shows zone) :=
  inferInstanceAs (Decidable (_ ∧ _ ∧ _ ∧ _ ∧ _))

def StoreFields.LatchesFault (data : StoreFields) (safetyRecordId : String) : Prop :=
  ∃ record, data.safetyRecords.get? safetyRecordId = some record ∧
    requiresAck record.actuatorFault = true ∧ record.acknowledgementRequired = true

/-- Whether the record has such a fault. -/
def StoreFields.requiresAckOf (data : StoreFields) (safetyRecordId : String) : Bool :=
  (data.safetyRecords.get? safetyRecordId).any fun record => requiresAck record.actuatorFault

namespace LatchedRecord

/-- A write, as far as it was verified or reached the disk. -/
def write (recorded : LatchedRecord) (data : StoreData) : WriteOutcome → LatchedRecord
  | .verified => { recorded with memory := data, disk := data }
  | .unverified => { recorded with disk := data }
  | .lost => recorded

def attachedZone (safetyRecordId : String) (data : StoreData) (creation : Creation)
    (runId : String) (assessment : ActuatorAssessment) (observation : MoistureObservation) :
    Option Zone :=
  if creation.safetyRecordId = safetyRecordId then
    (data.safetyRecords.get? safetyRecordId).bind fun record =>
      ((ZoneController.create creation runId record).attach data assessment
        observation).toOption.map ZoneController.zone
  else none

def step (safetyRecordId : String) (recorded : LatchedRecord) : LatchLabel → Option LatchedRecord
  | .zone label =>
    recorded.controller.bind fun zone => (zone.step label).map fun next =>
      { recorded with
        controller := some next
        latched := recorded.latched && !Zone.acceptsAck label }
  | .persist zoneHistoryId update outcome =>
    recorded.controller.bind fun zone =>
      if update.Shows zone then
        (updateControllerRuntime recorded.memory safetyRecordId zoneHistoryId
          update).toOption.map fun data =>
            { recorded.write data outcome with
              latched := recorded.latched ||
                (decide (outcome = .verified) && data.requiresAckOf safetyRecordId) }
      else none
  | .persistOther other zoneHistoryId update outcome =>
    if other ≠ safetyRecordId then
      (updateControllerRuntime recorded.memory other zoneHistoryId update).toOption.map
        (recorded.write · outcome)
    else none
  | .transaction change outcome =>
    if change.mintsOthers safetyRecordId then
      (change.result recorded.memory).toOption.join.map fun data =>
        { recorded.write data outcome with
          latched := recorded.latched && !(change.acknowledgesRecord safetyRecordId &&
            decide (outcome ≠ .lost) && recorded.memory.provenOffOnRecord safetyRecordId) }
    else none
  | .beginNewRun runId outcome =>
    (MoistureLoop.beginNewRun recorded.memory runId).toOption.map (recorded.write · outcome)
  | .markCleanShutdown outcome =>
    (MoistureLoop.markCleanShutdown recorded.memory).toOption.map (recorded.write · outcome)
  | .rebase target runId outcome =>
    (rebaseSoakingOwnerForRecord recorded.memory target runId).toOption.map
      (recorded.write · outcome)
  | .attach creation runId assessment observation =>
    (attachedZone safetyRecordId recorded.memory creation runId assessment observation).map
      fun zone => { recorded with controller := some zone }
  | .release => some { recorded with controller := none }
  | .restart => some { recorded with controller := none, memory := recorded.disk.load }

def system (safetyRecordId : String) : LabelledSystem LatchedRecord LatchLabel :=
  ⟨step safetyRecordId⟩

/-- No decision overwrites a fault that has to be acknowledged. -/
def KeepsLatch (_ : LatchedRecord) (label : LatchLabel) (_ : LatchedRecord) : Prop :=
  match label with
  | .zone label => Zone.KeepsDecision label
  | _ => True

/-- While a recorded fault has not been acknowledged, it is on record, in the verified snapshot
and on the disk. -/
def Latched (safetyRecordId : String) (recorded : LatchedRecord) : Prop :=
  recorded.latched = true → recorded.memory.LatchesFault safetyRecordId ∧
    recorded.disk.LatchesFault safetyRecordId

/-- While a recorded fault has not been acknowledged, the controller has one too. -/
structure Sound (safetyRecordId : String) (recorded : LatchedRecord) : Prop where
  latched : recorded.Latched safetyRecordId
  active : ∀ zone, recorded.controller = some zone → recorded.latched = true →
    requiresAck zone.activeFault = true
  zonal : ∀ zone, recorded.controller = some zone → zone.SecondaryZonal

end LatchedRecord

/-! ## The steps of a run -/

variable {safetyRecordId : String} {data next : StoreData}

theorem StoreFields.LatchesFault.of_same (latches : data.LatchesFault safetyRecordId)
    (same : data.SameFault safetyRecordId next.toStoreFields) :
    next.LatchesFault safetyRecordId := by
  obtain ⟨record, found, required, flagged⟩ := latches
  obtain ⟨after, found', kept⟩ := same record found
  exact ⟨after, found', kept.actuatorFault ▸ required, kept.acknowledgementRequired ▸ flagged⟩

theorem beginNewRun_sameFault {runId : String} (begun : beginNewRun data runId = .ok next) :
    data.SameFault safetyRecordId next.toStoreFields := by
  rw [StoreFields.check_eq_ok_iff.mp begun]
  exact .of_records rfl

theorem markCleanShutdown_sameFault (marked : markCleanShutdown data = .ok next) :
    data.SameFault safetyRecordId next.toStoreFields := by
  rw [StoreFields.check_eq_ok_iff.mp marked]
  exact .of_records rfl

theorem rebaseSoakingOwnerForRecord_sameFault {target runId : String}
    (rebased : rebaseSoakingOwnerForRecord data target runId = .ok next) :
    data.SameFault safetyRecordId next.toStoreFields := by
  unfold rebaseSoakingOwnerForRecord at rebased
  split at rebased
  · cases rebased
  · split at rebased
    · cases rebased
    · split at rebased
      · cases rebased
      · rw [StoreFields.check_eq_ok_iff.mp rebased]
        exact .of_records rfl

theorem updateControllerRuntime_sameFault {other zoneHistoryId : String} {update : ControllerUpdate}
    (differs : other ≠ safetyRecordId)
    (updated : updateControllerRuntime data other zoneHistoryId update = .ok next) :
    data.SameFault safetyRecordId next.toStoreFields := by
  obtain ⟨record, history, faults, -, -, -, -, same⟩ :=
    updateControllerRuntime_eq_ok_iff.mp updated
  rw [same]
  exact .of_records (Dict.get?_set_of_ne _ _ (Ne.symm differs))

/-- With a second slot of the zone the actuator fault of a pair is its first slot's. -/
theorem partition_actuatorFault {primary secondary : Option FaultCode} {faults : FaultPartition}
    (zonal : ∀ fault, secondary = some fault → fault.isZoneFault = true)
    (partitioned : partitionControllerFaults primary secondary = .ok faults) :
    faults.actuatorFault = primary.filter FaultCode.isActuatorFault := by
  rw [Zone.partition_of_zonal zonal] at partitioned
  rw [← Except.ok.inj partitioned]

theorem requiresAck_filter (fault : Option FaultCode) :
    requiresAck (fault.filter FaultCode.isActuatorFault) = requiresAck fault := by
  cases fault with
  | none => rfl
  | some fault => cases fault <;> rfl

/-- A write of the controller stores a fault that has to be acknowledged with its flag, exactly
when its active fault is one. -/
theorem latchesFault_of_update {zoneHistoryId : String} {update : ControllerUpdate} {zone : Zone}
    (zonal : zone.SecondaryZonal) (shows : update.Shows zone)
    (updated : updateControllerRuntime data safetyRecordId zoneHistoryId update = .ok next) :
    next.requiresAckOf safetyRecordId = requiresAck zone.activeFault ∧
      (requiresAck zone.activeFault = true → next.LatchesFault safetyRecordId) := by
  obtain ⟨record, history, faults, -, -, -, partitioned, same⟩ :=
    updateControllerRuntime_eq_ok_iff.mp updated
  obtain ⟨-, -, -, active, secondary⟩ := shows
  have latched := partition_actuatorFault (by rw [secondary]; exact zonal) partitioned
  have required : requiresAck faults.actuatorFault = requiresAck zone.activeFault := by
    rw [latched, requiresAck_filter, active]
  have stored : next.safetyRecords.get? safetyRecordId = some (update.record faults record) := by
    rw [same]
    exact Dict.get?_set_self _ _ _
  refine ⟨?_, fun needed => ⟨_, stored, required.trans needed, required.trans needed⟩⟩
  rw [StoreFields.requiresAckOf, stored]
  exact required

/-- A controller made for a record with such a fault starts with it. -/
theorem attachedZone_sound {creation : Creation} {runId : String}
    {assessment : ActuatorAssessment} {observation : MoistureObservation} {zone : Zone}
    (attached : LatchedRecord.attachedZone safetyRecordId data creation runId assessment
      observation = some zone) :
    (data.LatchesFault safetyRecordId → requiresAck zone.activeFault = true) ∧
      zone.SecondaryZonal := by
  obtain ⟨own, attached⟩ := Option.ite_none_right_eq_some.mp attached
  obtain ⟨record, found, attached⟩ := Option.bind_eq_some_iff.mp attached
  obtain ⟨controller, made, rfl⟩ := Option.map_eq_some_iff.mp attached
  obtain ⟨record', history, found', -, foundHistory, -, rfl⟩ :=
    ZoneController.attach_eq_ok_iff.mp (Except.toOption_eq_some_iff.mp made)
  have recordKnown : data.safetyRecords.get? safetyRecordId = some record' := by
    rw [← own]
    exact found'
  obtain rfl := Option.some.inj (found.symm.trans recordKnown)
  have restored : (ZoneController.zone (((ZoneController.create creation runId record).restore
      record history assessment observation))).RestoredFrom data safetyRecordId :=
    ⟨record, history, found, foundHistory, rfl⟩
  refine ⟨?_, restored.sound.zonal⟩
  rintro ⟨record', found', required, -⟩
  obtain rfl := Option.some.inj (found.symm.trans found')
  obtain ⟨fault, latched, -⟩ := (Option.any_eq_true _ _).mp required
  simpa [ZoneController.zone, ZoneController.restore, attachedFaults, latched] using required

namespace LatchedRecord

variable {recorded after start finish : LatchedRecord} {label : LatchLabel}

/-- A write that keeps the fault of the record, by whoever made it. -/
theorem Sound.write (sound : recorded.Sound safetyRecordId) (outcome : WriteOutcome)
    (same : recorded.memory.SameFault safetyRecordId next.toStoreFields) :
    (recorded.write next outcome).Sound safetyRecordId := by
  obtain ⟨latched, active, zonal⟩ := sound
  cases outcome with
  | verified =>
    exact ⟨fun held => ⟨(latched held).1.of_same same, (latched held).1.of_same same⟩, active,
      zonal⟩
  | unverified => exact ⟨fun held => ⟨(latched held).1, (latched held).1.of_same same⟩, active, zonal⟩
  | lost => exact ⟨latched, active, zonal⟩

/-- Whoever counts fewer faults as recorded demands less. -/
theorem Sound.unlatch (sound : recorded.Sound safetyRecordId) {latched : Bool}
    (still : latched = true → recorded.latched = true) :
    { recorded with latched := latched }.Sound safetyRecordId :=
  ⟨fun held => sound.latched (still held), fun zone attached held =>
    sound.active zone attached (still held), sound.zonal⟩

/-- The controller stores the fault that it has. -/
theorem Sound.persist (sound : recorded.Sound safetyRecordId) {zone : Zone}
    {zoneHistoryId : String} {update : ControllerUpdate}
    (held : recorded.controller = some zone) (shows : update.Shows zone)
    (updated : updateControllerRuntime recorded.memory safetyRecordId zoneHistoryId update =
      .ok next) (outcome : WriteOutcome) :
    { recorded.write next outcome with
      latched := recorded.latched ||
        (decide (outcome = WriteOutcome.verified) && next.requiresAckOf safetyRecordId) }.Sound
      safetyRecordId := by
  obtain ⟨required, stored⟩ := latchesFault_of_update (sound.zonal zone held) shows updated
  have active : (recorded.latched ||
      (decide (outcome = WriteOutcome.verified) && next.requiresAckOf safetyRecordId)) = true →
      requiresAck zone.activeFault = true := by
    intro latched
    obtain still | ⟨-, now⟩ : recorded.latched = true ∨ outcome = .verified ∧
        next.requiresAckOf safetyRecordId = true := by simpa using latched
    · exact sound.active zone held still
    · exact required.symm.trans now
  cases outcome with
  | verified =>
    refine ⟨fun latched => ⟨stored (active latched), stored (active latched)⟩,
      fun zone' held' latched => ?_, sound.zonal⟩
    obtain rfl := Option.some.inj (held.symm.trans held')
    exact active latched
  | unverified =>
    refine ⟨fun latched => ⟨?_, stored (active latched)⟩, fun zone' held' latched => ?_,
      sound.zonal⟩
    · exact (sound.latched (by simpa using latched)).1
    · obtain rfl := Option.some.inj (held.symm.trans held')
      exact active latched
  | lost =>
    refine sound.unlatch fun latched => ?_
    simpa using latched

/-- A transaction keeps the fault, or accepts its acknowledgement. -/
theorem Sound.transact (sound : recorded.Sound safetyRecordId) {change : EntryTransaction}
    (minted : change.mintsOthers safetyRecordId = true)
    (changed : change.result recorded.memory = .ok (some next)) (outcome : WriteOutcome) :
    { recorded.write next outcome with
      latched := recorded.latched && !(change.acknowledgesRecord safetyRecordId &&
        decide (outcome ≠ WriteOutcome.lost) && recorded.memory.provenOffOnRecord safetyRecordId) }.Sound
      safetyRecordId := by
  cases acknowledges : change.acknowledgesRecord safetyRecordId with
  | false =>
    refine (sound.write outcome (change.sameFault changed minted acknowledges)).unlatch fun held => ?_
    cases outcome <;> simpa [LatchedRecord.write] using held
  | true =>
    by_cases lost : outcome = .lost
    · subst lost
      exact sound.unlatch (by simp)
    · have proven : recorded.memory.provenOffOnRecord safetyRecordId = true := by
        cases change with
        | acknowledgeActuatorFault target safetyLineageId expectedFault =>
          obtain rfl : target = safetyRecordId := of_decide_eq_true acknowledges
          exact provenOffOnRecord_of_acknowledge (eq_ok_of_map_some changed)
        | _ => cases acknowledges
      refine ⟨fun held => ?_, fun _ _ held => ?_, ?_⟩
      · simp [lost, proven] at held
      · simp [lost, proven] at held
      · cases outcome <;> exact sound.zonal

theorem Sound.step (sound : recorded.Sound safetyRecordId)
    (stepped : (system safetyRecordId).step recorded label = some after)
    (keeps : KeepsLatch recorded label after) : after.Sound safetyRecordId := by
  cases label with
  | zone label =>
    obtain ⟨zone, held, stepped⟩ := Option.bind_eq_some_iff.mp stepped
    obtain ⟨moved, steps, rfl⟩ := Option.map_eq_some_iff.mp stepped
    obtain ⟨latched, active, zonal⟩ := sound
    refine ⟨fun still => ?_, fun zone' held' still => ?_, fun zone' held' => ?_⟩
    · simp only [Bool.and_eq_true] at still
      exact latched still.1
    · obtain rfl := Option.some.inj held'
      simp only [Bool.and_eq_true, Bool.not_eq_true'] at still
      exact Zone.requiresAck_step steps keeps (active zone held still.1) still.2
    · obtain rfl := Option.some.inj held'
      exact (zonal zone held).step steps
  | persist zoneHistoryId update outcome =>
    obtain ⟨zone, held, stepped⟩ := Option.bind_eq_some_iff.mp stepped
    obtain ⟨shows, stepped⟩ := Option.ite_none_right_eq_some.mp stepped
    obtain ⟨data, updated, rfl⟩ := Option.map_eq_some_iff.mp stepped
    exact sound.persist held shows (Except.toOption_eq_some_iff.mp updated) outcome
  | persistOther other zoneHistoryId update outcome =>
    obtain ⟨differs, stepped⟩ := Option.ite_none_right_eq_some.mp stepped
    obtain ⟨data, updated, rfl⟩ := Option.map_eq_some_iff.mp stepped
    exact sound.write outcome
      (updateControllerRuntime_sameFault differs (Except.toOption_eq_some_iff.mp updated))
  | transaction change outcome =>
    obtain ⟨minted, stepped⟩ := Option.ite_none_right_eq_some.mp stepped
    obtain ⟨data, changed, rfl⟩ := Option.map_eq_some_iff.mp stepped
    have changed := Except.toOption_eq_some_iff.mp (Option.join_eq_some_iff.mp changed)
    exact sound.transact minted changed outcome
  | beginNewRun runId outcome =>
    obtain ⟨data, begun, rfl⟩ := Option.map_eq_some_iff.mp stepped
    exact sound.write outcome (beginNewRun_sameFault (Except.toOption_eq_some_iff.mp begun))
  | markCleanShutdown outcome =>
    obtain ⟨data, marked, rfl⟩ := Option.map_eq_some_iff.mp stepped
    exact sound.write outcome (markCleanShutdown_sameFault (Except.toOption_eq_some_iff.mp marked))
  | rebase target runId outcome =>
    obtain ⟨data, rebased, rfl⟩ := Option.map_eq_some_iff.mp stepped
    exact sound.write outcome
      (rebaseSoakingOwnerForRecord_sameFault (Except.toOption_eq_some_iff.mp rebased))
  | attach creation runId assessment observation =>
    obtain ⟨zone, attached, rfl⟩ := Option.map_eq_some_iff.mp stepped
    obtain ⟨required, zonal⟩ := attachedZone_sound attached
    refine ⟨sound.latched, fun zone' held still => ?_, fun zone' held => ?_⟩
    · obtain rfl := Option.some.inj held
      exact required (sound.latched still).1
    · obtain rfl := Option.some.inj held
      exact zonal
  | release =>
    obtain rfl := Option.some.inj stepped
    exact ⟨sound.latched, fun _ held => (by cases held), fun _ held => (by cases held)⟩
  | restart =>
    obtain rfl := Option.some.inj stepped
    exact ⟨fun still => ⟨(sound.latched still).2, (sound.latched still).2⟩,
      fun _ held => (by cases held), fun _ held => (by cases held)⟩

/-- In a run whose decisions do not overwrite it, a recorded fault that has to be acknowledged
stays on record until an acknowledgement is accepted while the actuator is proven OFF. -/
theorem latched_of_run (reached : (system safetyRecordId).Run KeepsLatch start finish)
    (unattached : start.controller = none) (latched : start.Latched safetyRecordId) :
    finish.Latched safetyRecordId := by
  have sound : finish.Sound safetyRecordId := reached.preserves
    ⟨latched, by simp [unattached], by simp [unattached]⟩
    fun _ _ _ sound stepped keeps => sound.step stepped keeps
  exact sound.latched

/-! ## A timeout on record -/

/-- The process has loaded a store with one zone at rest. -/
def loaded : LatchedRecord := { memory := sampleStore, disk := sampleStore }

def attachBed : LatchLabel :=
  .attach
    { zoneId := "bed"
      safetyRecordId := "record-a"
      configFingerprint := "fingerprint"
      config := sampleConfig "sensor.soil" "switch.a"
      today := 0 }
    "run" ⟨true, true, false, Bool.and_false true⟩ ⟨some 10, .valid, some 100⟩

/-- What `_persist_locked` writes of a zone. -/
def updateOf (zone : Zone) : ControllerUpdate where
  state := zone.state
  enabled := zone.enabled
  activeFault := zone.activeFault
  secondaryFault := zone.secondaryFault
  lastSessionEndUtc := none
  lastAutoSessionStartUtc := none
  daily := none
  lastSessionSummary := none
  session := zone.session
  possibleFlowOwner := none

/-- A manual session waters, and its OFF stays unproven. -/
def flowing : Zone :=
  Zone.atRest.decideWith (Zone.atRest.sampleInput (.manualStartRequested (some 60))) Zone.adopt

def unproven : Zone := flowing.decideWith (flowing.sampleInput .offNotConfirmed) Zone.adopt

/-- The timeout is recorded. -/
def timeoutLabels : List LatchLabel :=
  [attachBed, .zone (.decide (Zone.atRest.sampleInput (.manualStartRequested (some 60)))),
    .zone (.decide (flowing.sampleInput .offNotConfirmed)),
    .persist "history-a" (updateOf unproven) .verified]

/-- The zone that the next process restores. -/
def restored : Zone :=
  { unproven with session := unproven.session.map SessionContext.persisted }

/-- The runtime blocks the record by a write that cannot be read back; the next process disables
the zone, is asked to clear the fault of a switch that is on, and writes the zone. -/
def restartLabels : List LatchLabel :=
  let disabled : Zone := { restored with state := .disabled, enabled := false }
  [.transaction (.setRecordBlocker "record-a" .integrationOffUnconfirmed true) .unverified,
    .restart, attachBed,
    .zone (.decide { restored.sampleInput .clearFaultRequested with
      actuator := ⟨true, false, true, Bool.false_and true⟩ }),
    .zone (.setEnabled false
      ({ restored with enabled := false }.sampleInput .disableRequested)),
    .persist "history-a" (updateOf disabled) .verified]

def keepsCheck : LatchLabel → Bool
  | .zone (.decide input) | .zone (.setEnabled _ input) | .zone (.compensate input) =>
    !requiresAck input.activeFault || (decide (input.state ≠ .watering ∧ input.state ≠ .soaking) &&
      match input.event with
      | .configurationInvalid _ => false
      | _ => true)
  | _ => true

/-- Outside a session only an invalid configuration overwrites a fault. -/
theorem not_overwrites_of_rest {input : TransitionInput}
    (rests : input.state ≠ .watering ∧ input.state ≠ .soaking)
    (configured : ∀ atSetup, input.event ≠ .configurationInvalid atSetup) :
    ¬ StateMachine.Overwrites input := by
  rintro (⟨latches, -⟩ | ⟨soaking, -, -, -⟩ | ⟨watering, -, -, -, -⟩)
  · cases latches with
    | configuring event _ => exact configured _ event
    | watering watering | retained watering => exact rests.1 watering
    | soaking soaking | restored soaking => exact rests.2 soaking
  · exact rests.2 soaking
  · exact rests.1 watering

theorem keepsLatch_of_check (permitted : keepsCheck label = true) :
    KeepsLatch recorded label after := by
  cases label with
  | zone label =>
    cases label with
    | decide input | setEnabled enabled input | compensate input =>
      intro latched
      simp only [keepsCheck, latched, Bool.not_true, Bool.false_or, Bool.and_eq_true,
        decide_eq_true_eq] at permitted
      refine not_overwrites_of_rest permitted.1 fun atSetup event => ?_
      simp [event] at permitted
    | _ => trivial
  | _ => trivial

/-- The timeout outlives a restart, a refused request to clear it and a request to disable. -/
theorem latched_of_run_restart :
    ∃ finish, (system "record-a").runWhile (fun _ label _ => keepsCheck label) loaded
        (timeoutLabels ++ restartLabels) = some finish ∧ finish.latched = true ∧
      finish.Latched "record-a" := by
  obtain ⟨finish, executed, latched⟩ := (Option.any_eq_true _ _).mp
    (show (((system "record-a").runWhile (fun _ label _ => keepsCheck label) loaded
      (timeoutLabels ++ restartLabels)).any LatchedRecord.latched) = true by decide +kernel)
  exact ⟨finish, executed, latched, latched_of_run
    (.of_runWhile (fun _ _ _ => keepsLatch_of_check) executed) rfl
    fun unrecorded => by cases unrecorded⟩

/-- An invalid configuration takes the fault slot of a zone in FAULT, and the next write takes
the fault off the record. -/
theorem not_latched_configurationInvalid :
    ¬ ∀ (safetyRecordId : String) (start finish : LatchedRecord),
      (system safetyRecordId).Run (fun _ _ _ => True) start finish → start.controller = none →
      start.Latched safetyRecordId → finish.Latched safetyRecordId := by
  intro claimed
  let invalid := unproven.sampleInput (.configurationInvalid false)
  obtain ⟨finish, executed, ends⟩ := (Option.any_eq_true _ _).mp
    (show (((system "record-a").run loaded (timeoutLabels ++ [.zone (.decide invalid),
      .persist "history-a" (updateOf (unproven.decideWith invalid Zone.adopt)) .verified])).any
        fun finish => finish.latched && !finish.memory.requiresAckOf "record-a") = true by
          decide +kernel)
  simp only [Bool.and_eq_true, Bool.not_eq_true'] at ends
  obtain ⟨⟨record, found, required, -⟩, -⟩ := claimed "record-a" loaded finish (.of_run executed)
    rfl (fun unrecorded => by cases unrecorded) ends.1
  simp [StoreFields.requiresAckOf, found, required] at ends

end LatchedRecord

end MoistureLoop
