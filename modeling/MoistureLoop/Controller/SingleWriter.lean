import MoistureLoop.Controller.Shared

/-! # One writer for the operation of a zone

After an actuator was replaced, two records refer to one history: the ACTIVE record of the
new actuator, and the retained record of the old one, whose controller goes on observing its
valve with a copy of its own of state, session and counters.  `SingleWriter` says what a
write on behalf of a record may change when another ACTIVE record owns the history.  The
shutdown path asks `ownsZoneRuntime` before it persists; the transitions of a controller do
not, so they keep the rule only where the answer would have been yes. -/

open MoistureLoop.Action

namespace MoistureLoop

/-! ## What a write may change -/

/-- `history'` agrees with `history` on the operation of the zone: runtime, daily counter and
the anchors of the interval. -/
structure ZoneHistory.SameOperation (history history' : ZoneHistory) : Prop where
  zoneRuntime : history'.zoneRuntime = history.zoneRuntime
  daily : history'.daily = history.daily
  lastSessionEndUtc : history'.lastSessionEndUtc = history.lastSessionEndUtc
  lastAutoSessionStartUtc : history'.lastAutoSessionStartUtc = history.lastAutoSessionStartUtc

theorem ZoneHistory.SameOperation.refl (history : ZoneHistory) : history.SameOperation history :=
  ⟨rfl, rfl, rfl, rfl⟩

theorem ZoneHistory.SameOperation.trans {first second third : ZoneHistory}
    (left : first.SameOperation second) (right : second.SameOperation third) :
    first.SameOperation third where
  zoneRuntime := right.zoneRuntime.trans left.zoneRuntime
  daily := right.daily.trans left.daily
  lastSessionEndUtc := right.lastSessionEndUtc.trans left.lastSessionEndUtc
  lastAutoSessionStartUtc := right.lastAutoSessionStartUtc.trans left.lastAutoSessionStartUtc

/-- `record'` differs from `record` in the evidence about its actuator at most: the fault with
its acknowledgement, and the possible flow. -/
def SafetyRecord.SameButEvidence (record record' : SafetyRecord) : Prop :=
  record' = { record with
    blockerReasons := record'.blockerReasons
    possibleFlowOwner := record'.possibleFlowOwner
    actuatorFault := record'.actuatorFault
    acknowledgementRequired := record'.acknowledgementRequired }

def StoreFields.OwnedBy (data : StoreFields) (owner zoneHistoryId : String) : Prop :=
  ∃ record, data.safetyRecords.get? owner = some record ∧ record.runtimeLifecycle = .active ∧
    record.zoneHistoryId = zoneHistoryId

def StoreFields.OwnedByOther (data : StoreFields) (safetyRecordId zoneHistoryId : String) : Prop :=
  ∃ owner, owner ≠ safetyRecordId ∧ data.OwnedBy owner zoneHistoryId

/-- What a write on behalf of a record leaves alone: the operation of every history that
another ACTIVE record owns, every history its own record does not refer to, every other
record, and of its own record all but the evidence. -/
structure SingleWriter (safetyRecordId : String) (before after : StoreFields) : Prop where
  operation : ∀ zoneHistoryId history, before.OwnedByOther safetyRecordId zoneHistoryId →
    before.zoneHistories.get? zoneHistoryId = some history →
    ∃ history', after.zoneHistories.get? zoneHistoryId = some history' ∧
      history.SameOperation history'
  histories : ∀ zoneHistoryId, (∀ record, before.safetyRecords.get? safetyRecordId = some record →
      record.zoneHistoryId ≠ zoneHistoryId) →
    after.zoneHistories.get? zoneHistoryId = before.zoneHistories.get? zoneHistoryId
  records : ∀ other, other ≠ safetyRecordId →
    after.safetyRecords.get? other = before.safetyRecords.get? other
  evidence : ∀ record, before.safetyRecords.get? safetyRecordId = some record →
    ∃ record', after.safetyRecords.get? safetyRecordId = some record' ∧
      record.SameButEvidence record'

theorem SingleWriter.refl (safetyRecordId : String) (data : StoreFields) :
    SingleWriter safetyRecordId data data where
  operation _ history _ found := ⟨history, found, .refl history⟩
  histories _ _ := rfl
  records _ _ := rfl
  evidence record found := ⟨record, found, rfl⟩

/-- A blocker write changes the evidence of its record and nothing else. -/
theorem SingleWriter.setRecord {safetyRecordId : String} {data : StoreFields}
    {record record' : SafetyRecord} (found : data.safetyRecords.get? safetyRecordId = some record)
    (same : record.SameButEvidence record') :
    SingleWriter safetyRecordId data (data.setRecord safetyRecordId record') where
  operation _ history _ known := ⟨history, known, .refl history⟩
  histories _ _ := rfl
  records other apart := Dict.get?_set_of_ne _ _ apart
  evidence known found' := by
    obtain rfl := Option.some.inj (found.symm.trans found')
    exact ⟨record', Dict.get?_set_self _ _ _, same⟩

/-! ## The write of a controller -/

namespace ControllerUpdate

/-- The store accepts the write: its faults have an owner each, and its counter covers what
is recorded. -/
def Storable (update : ControllerUpdate) (history : ZoneHistory) : Prop :=
  (∃ faults, partitionControllerFaults update.activeFault update.secondaryFault = .ok faults) ∧
    update.FaultsStorable ∧ DailyStorable history.daily update.daily

structure Repeats (update : ControllerUpdate) (safetyRecordId : String) (history : ZoneHistory) :
    Prop where
  enabled : update.enabled = history.zoneRuntime.enabled
  state : update.state = history.zoneRuntime.state
  zoneFault : update.activeFault.filter FaultCode.isZoneFault = history.zoneRuntime.zoneFault
  secondaryFault :
    update.secondaryFault.filter FaultCode.isZoneFault = history.zoneRuntime.secondaryFault
  lastSessionSummary : update.lastSessionSummary = history.zoneRuntime.lastSessionSummary
  session : update.session.map (PersistedSession.mk safetyRecordId) = history.zoneRuntime.session
  daily : mergeControllerDailyRuntime history.daily update.daily = history.daily
  lastSessionEndUtc : update.lastSessionEndUtc = history.lastSessionEndUtc
  lastAutoSessionStartUtc : update.lastAutoSessionStartUtc = history.lastAutoSessionStartUtc

variable {update : ControllerUpdate} {safetyRecordId zoneHistoryId : String}
  {faults : FaultPartition} {history : ZoneHistory} {record : SafetyRecord} {data : StoreFields}

/-- The stored history is the old one exactly when the write repeats it. -/
theorem sameOperation_iff
    (parted : partitionControllerFaults update.activeFault update.secondaryFault = .ok faults) :
    history.SameOperation (update.history safetyRecordId faults history) ↔
      update.Repeats safetyRecordId history := by
  obtain ⟨-, zone, secondary⟩ := partitionControllerFaults_ok parted
  constructor
  · intro same
    have runtime := same.zoneRuntime
    simp only [ControllerUpdate.history, zone, secondary] at runtime
    exact {
      enabled := congrArg ZoneRuntime.enabled runtime
      state := congrArg ZoneRuntime.state runtime
      zoneFault := congrArg ZoneRuntime.zoneFault runtime
      secondaryFault := congrArg ZoneRuntime.secondaryFault runtime
      lastSessionSummary := congrArg ZoneRuntime.lastSessionSummary runtime
      session := congrArg ZoneRuntime.session runtime
      daily := same.daily
      lastSessionEndUtc := same.lastSessionEndUtc
      lastAutoSessionStartUtc := same.lastAutoSessionStartUtc }
  · intro repeats
    refine ⟨?_, repeats.daily, repeats.lastSessionEndUtc, repeats.lastAutoSessionStartUtc⟩
    simp only [ControllerUpdate.history, zone, secondary, repeats.enabled, repeats.state,
      repeats.zoneFault, repeats.secondaryFault, repeats.lastSessionSummary, repeats.session]

/-- A stored controller write keeps the rule exactly when it repeats the history, or no other
ACTIVE record owns it. -/
theorem singleWriter_fields_iff
    (foundRecord : data.safetyRecords.get? safetyRecordId = some record)
    (foundHistory : data.zoneHistories.get? zoneHistoryId = some history)
    (owned : record.zoneHistoryId = zoneHistoryId)
    (parted : partitionControllerFaults update.activeFault update.secondaryFault = .ok faults) :
    SingleWriter safetyRecordId data
        (update.fields data safetyRecordId zoneHistoryId faults history record) ↔
      (data.OwnedByOther safetyRecordId zoneHistoryId → update.Repeats safetyRecordId history) := by
  constructor
  · intro single other
    obtain ⟨history', found, same⟩ := single.operation zoneHistoryId history other foundHistory
    have written : update.history safetyRecordId faults history = history' :=
      Option.some.inj ((Dict.get?_set_self _ _ _).symm.trans found)
    rw [← written] at same
    exact (sameOperation_iff parted).mp same
  · intro repeats
    exact {
      operation := by
        intro key known other found
        by_cases same : key = zoneHistoryId
        · subst same
          obtain rfl := Option.some.inj (foundHistory.symm.trans found)
          exact ⟨_, Dict.get?_set_self _ _ _, (sameOperation_iff parted).mpr (repeats other)⟩
        · exact ⟨known, (Dict.get?_set_of_ne _ _ same).trans found, .refl known⟩
      histories := by
        intro key unreferenced
        have apart : key ≠ zoneHistoryId := fun same =>
          unreferenced record foundRecord (owned.trans same.symm)
        exact Dict.get?_set_of_ne _ _ apart
      records := fun other apart => Dict.get?_set_of_ne _ _ apart
      evidence := by
        intro known found
        obtain rfl := Option.some.inj (foundRecord.symm.trans found)
        exact ⟨_, Dict.get?_set_self _ _ _, rfl⟩ }

end ControllerUpdate

namespace ZoneController

/-! ## What a step does to the store -/

def writesRuntime (controller : ZoneController) : ControllerLabel → Bool
  | .act saved =>
    saved && match controller.ahead.head? with
      | some (persistState _) => true
      | _ => false
  | .anchor saved => saved
  | _ => false

def runtimeWritten (controller : ZoneController) (shared : SharedState) : StoreData :=
  ((controller.rollDaily shared.calendar shared.now).persistPayload shared.store).toOption.getD
    shared.store

/-- A step writes the runtime of its controller, or changes one blocker of its record, or
leaves the store as it is. -/
structure StoreMove (controller : ZoneController) (shared : SharedState) (label : ControllerLabel)
    (store : StoreData) : Prop where
  runtime : controller.writesRuntime label = true → store = controller.runtimeWritten shared
  blocker : controller.writesRuntime label = false → store = shared.store ∨
    ∃ record reason active,
      shared.store.safetyRecords.get? controller.safetyRecordId = some record ∧
      store.toStoreFields = shared.store.toStoreFields.setRecord controller.safetyRecordId
        (record.withBlocker reason active)

variable {controller : ZoneController} {shared shared' : SharedState} {label : ControllerLabel}

theorem StoreMove.refl (silent : controller.writesRuntime label = false) :
    StoreMove controller shared label shared.store :=
  ⟨fun writes => absurd (silent.symm.trans writes) Bool.false_ne_true, fun _ => .inl rfl⟩

/-- A controller write with the answer of the backend. -/
theorem store_of_persist (saved : Bool) :
    (((controller.rollDaily shared.calendar shared.now).persist shared.store saved).toOption.getD
      shared.store) = if saved then controller.runtimeWritten shared else shared.store := by
  unfold persist runtimeWritten
  cases (controller.rollDaily shared.calendar shared.now).persistPayload shared.store with
  | error err => cases saved <;> rfl
  | ok data => cases saved <;> rfl

theorem storeMove_of_persist {saved : Bool} (writes : controller.writesRuntime label = saved) :
    StoreMove controller shared label
      (((controller.rollDaily shared.calendar shared.now).persist shared.store saved).toOption.getD
        shared.store) := by
  rw [store_of_persist]
  cases saved with
  | false => exact .refl writes
  | true => exact ⟨fun _ => rfl, fun silent => absurd (silent.symm.trans writes) Bool.false_ne_true⟩

theorem storeMove_of_persistSlotBlocker {reason : BlockerReason} {active saved : Bool}
    {store : StoreData} (silent : controller.writesRuntime label = false)
    (persisted : persistSlotBlocker shared.store controller.safetyRecordId reason active saved =
      .ok store) : StoreMove controller shared label store := by
  refine ⟨fun writes => absurd (silent.symm.trans writes) Bool.false_ne_true, fun _ => ?_⟩
  unfold persistSlotBlocker at persisted
  split at persisted
  · cases persisted
  · rename_i record found
    rcases setRecordBlocker_total reason active found with ⟨same, -⟩ | ⟨written, set, stored⟩
    · simp only [same, Except.ok.injEq] at persisted
      exact .inl persisted.symm
    · simp only [set, saveAndVerify] at persisted
      split at persisted
      · obtain rfl := Except.ok.inj persisted
        exact .inr ⟨record, reason, active, found, stored⟩
      · cases persisted

theorem storeMove_of_addBlocker {reason : BlockerReason} {saved : Bool}
    (silent : controller.writesRuntime label = false) :
    StoreMove controller shared label
      (shared.addBlocker (controller.safetyRecordId, reason) saved).1.store := by
  unfold SharedState.addBlocker
  split
  · exact .refl silent
  · simp only
    split
    · exact .refl silent
    · rename_i persisted
      exact storeMove_of_persistSlotBlocker silent persisted

theorem storeMove_of_removeBlocker {reason : BlockerReason} {saved : Bool}
    (silent : controller.writesRuntime label = false) :
    StoreMove controller shared label
      (shared.removeBlocker (controller.safetyRecordId, reason) saved).1.store := by
  unfold SharedState.removeBlocker
  split
  · exact .refl silent
  · split
    · exact .refl silent
    · rename_i persisted
      exact storeMove_of_persistSlotBlocker silent persisted

/-- What the next action of an application does to the store. -/
theorem applyAction_storeMove {action : Action} {saved : Bool} {rest : List Action}
    (ahead : controller.ahead = action :: rest) :
    StoreMove controller shared (.act saved)
      (controller.applyAction shared action saved).1.2.store := by
  have writes : controller.writesRuntime (.act saved) =
      (saved && match some action with
        | some (persistState _) => true
        | _ => false) := by
    simp only [writesRuntime, ahead, List.head?_cons]
  cases action with
  | persistState tag =>
    have persisted := @storeMove_of_persist controller shared (.act saved) saved
      (writes.trans (Bool.and_true saved))
    simp only [applyAction]
    generalize (controller.rollDaily shared.calendar shared.now).persist shared.store saved
      = result at persisted
    cases result <;> exact persisted
  | addBlocker reason => exact storeMove_of_addBlocker (writes.trans (Bool.and_false saved))
  | removeBlocker reason => exact storeMove_of_removeBlocker (writes.trans (Bool.and_false saved))
  | _ => exact .refl (writes.trans (Bool.and_false saved))

theorem act_storeMove {saved : Bool} {decision : Decision} {input : TransitionInput}
    {rest : List Action} {applier : Applier}
    (locked : controller.locked = some (.applying decision input rest applier)) :
    StoreMove controller shared (.act saved)
      (controller.act shared saved decision input applier rest).2.store := by
  have ahead : controller.ahead = rest := by simp [ZoneController.ahead, locked]
  cases rest with
  | nil => exact .refl (by simp [writesRuntime, ahead])
  | cons action rest =>
    have moved := @applyAction_storeMove controller shared action saved rest ahead
    simp only [act]
    generalize controller.applyAction shared action saved = result at moved ⊢
    obtain ⟨⟨acted, shared'⟩, raised⟩ := result
    cases raised with
    | none => exact moved
    | some err => cases err <;> exact moved

theorem anchor_storeMove {saved : Bool} :
    StoreMove controller shared (.anchor saved) (controller.anchor shared saved).2.store := by
  have persisted := @storeMove_of_persist controller shared (.anchor saved) saved rfl
  simp only [anchor]
  generalize (controller.rollDaily shared.calendar shared.now).persist shared.store saved
    = result at persisted
  cases result with
  | ok store => exact persisted
  | error err => cases err <;> exact persisted

theorem slotStep_store {next : ZoneController} {sessionId : String}
    (stepped : controller.slotStep shared label sessionId = some (next, shared')) :
    shared'.store = shared.store := by
  unfold slotStep at stepped
  split at stepped
  · obtain ⟨-, rfl⟩ := Prod.mk.inj (Option.some.inj stepped)
    rfl
  · split at stepped
    · split at stepped <;>
      · obtain ⟨-, rfl⟩ := Prod.mk.inj (Option.some.inj stepped)
        rfl
    · cases stepped
  · split at stepped
    · obtain ⟨-, rfl⟩ := Prod.mk.inj (Option.some.inj stepped)
      rfl
    · cases stepped
  · obtain ⟨-, rfl⟩ := Prod.mk.inj (Option.some.inj stepped)
    rfl
  · cases stepped

theorem actuatorStep_storeMove {next : ZoneController} {sessionId : String}
    (silent : controller.writesRuntime label = false)
    (stepped : controller.actuatorStep shared label sessionId = some (next, shared')) :
    StoreMove controller shared label shared'.store := by
  unfold actuatorStep at stepped
  split at stepped
  · obtain ⟨-, rfl⟩ := Prod.mk.inj (Option.some.inj stepped)
    exact .refl silent
  · split at stepped
    · cases stepped
    · simp only at stepped
      split at stepped <;>
      · obtain ⟨-, rfl⟩ := Prod.mk.inj (Option.some.inj stepped)
        exact .refl silent
  · rename_i saved change active held
    have moved := @storeMove_of_removeBlocker controller shared _ .actuatorNotProvenOff saved silent
    generalize shared.removeBlocker (controller.safetyRecordId, .actuatorNotProvenOff) saved
      = result at moved stepped
    obtain ⟨removed, raised⟩ := result
    cases raised with
    | some err =>
      obtain ⟨-, rfl⟩ := Prod.mk.inj (Option.some.inj stepped)
      exact moved
    | none =>
      simp only at stepped
      split at stepped <;>
      · obtain ⟨-, rfl⟩ := Prod.mk.inj (Option.some.inj stepped)
        exact moved
  · cases stepped

theorem sessionStep_storeMove {next : ZoneController} {sessionId : String}
    (stepped : controller.sessionStep shared label sessionId = some (next, shared')) :
    StoreMove controller shared label shared'.store := by
  unfold sessionStep at stepped
  split at stepped
  · obtain ⟨woken, -, same⟩ := Option.map_eq_some_iff.mp stepped
    obtain ⟨-, rfl⟩ := Prod.mk.inj same
    exact .refl rfl
  · obtain ⟨-, rfl⟩ := Prod.mk.inj (Option.some.inj stepped)
    exact .refl rfl
  · obtain ⟨-, rfl⟩ := Prod.mk.inj (Option.some.inj stepped)
    exact .refl rfl
  · obtain ⟨-, rfl⟩ := Prod.mk.inj (Option.some.inj stepped)
    exact .refl rfl
  · rename_i saved _ _
    have moved := @anchor_storeMove controller shared saved
    rwa [show controller.anchor shared saved = (next, shared') from Option.some.inj stepped] at moved
  · obtain ⟨-, rfl⟩ := Prod.mk.inj (Option.some.inj stepped)
    exact .refl rfl
  · split at stepped
    · obtain ⟨-, rfl⟩ := Prod.mk.inj (Option.some.inj stepped)
      exact .refl rfl
    · cases stepped
  · cases stepped

theorem step_storeMove {next : ZoneController} {sessionId : String}
    (stepped : controller.step shared label sessionId = some (next, shared')) :
    StoreMove controller shared label shared'.store := by
  cases label with
  | dispatch event | setEnabled enabled =>
    simp only [step] at stepped
    split at stepped
    · obtain ⟨-, rfl⟩ := Prod.mk.inj (Option.some.inj stepped)
      exact .refl rfl
    · cases stepped
  | moisture observation =>
    simp only [step] at stepped
    split at stepped
    · split at stepped <;>
      · obtain ⟨-, rfl⟩ := Prod.mk.inj (Option.some.inj stepped)
        exact .refl rfl
    · cases stepped
  | act saved =>
    simp only [step] at stepped
    split at stepped
    · rename_i decision input rest applier locked
      have moved := @act_storeMove controller shared saved decision input rest applier locked
      rwa [show controller.act shared saved decision input applier rest = (next, shared') from
        Option.some.inj stepped] at moved
    · cases stepped
  | actuatorEvent | actuatorChange | provingOff =>
    simp only [step] at stepped
    exact actuatorStep_storeMove rfl stepped
  | slotRequest | slotResume | slotOffer | slotCancelled =>
    simp only [step] at stepped
    rw [slotStep_store stepped]
    exact .refl rfl
  | wake | gate | serviceReturned | reenter | anchor | recheck | offJoined =>
    simp only [step] at stepped
    exact sessionStep_storeMove stepped
  | offServiceReturned | offProofEnded | offAborted | offDispatch =>
    simp only [step] at stepped
    obtain ⟨moved, -, same⟩ := Option.map_eq_some_iff.mp stepped
    obtain ⟨-, rfl⟩ := Prod.mk.inj same
    exact .refl rfl
  | ensureOff | quiesce | updateOwnership =>
    obtain ⟨-, rfl⟩ := Prod.mk.inj (Option.some.inj stepped)
    exact .refl rfl

/-! ## Which writes keep the rule -/

/-- A write of the controller's runtime that the store accepts repeats the history, where
another ACTIVE record owns it. -/
def KeepsForeignHistory (controller : ZoneController) (shared : SharedState) : Prop :=
  ∀ record history, shared.store.safetyRecords.get? controller.safetyRecordId = some record →
    record.zoneHistoryId = controller.zoneHistoryId →
    shared.store.zoneHistories.get? controller.zoneHistoryId = some history →
    ((controller.rollDaily shared.calendar shared.now).update record).Storable history →
    shared.store.OwnedByOther controller.safetyRecordId controller.zoneHistoryId →
    ((controller.rollDaily shared.calendar shared.now).update record).Repeats
      controller.safetyRecordId history

/-- `_owns_zone_runtime`: no other ACTIVE record refers to the history. -/
def ownsZoneRuntime (controller : ZoneController) (store : StoreData) : Bool :=
  match store.safetyRecords.get? controller.safetyRecordId,
      store.zoneHistories.get? controller.zoneHistoryId with
  | some record, some _ =>
    record.zoneHistoryId = controller.zoneHistoryId &&
      !store.safetyRecords.values.any fun other =>
        other.safetyRecordId ≠ controller.safetyRecordId &&
          other.zoneHistoryId = controller.zoneHistoryId && other.runtimeLifecycle = .active
  | _, _ => false

/-- What the shutdown path asks before it persists is enough for every write. -/
theorem keepsForeignHistory_of_ownsZoneRuntime
    (owns : controller.ownsZoneRuntime shared.store = true) :
    controller.KeepsForeignHistory shared := by
  rintro record history foundRecord - foundHistory - ⟨owner, apart, other, found, active, refers⟩
  simp only [ownsZoneRuntime, foundRecord, foundHistory, Bool.and_eq_true, Bool.not_eq_true',
    List.any_eq_false, decide_eq_true_eq, not_and] at owns
  have named := shared.store.consistent.recordKey owner other found
  have listed : other ∈ shared.store.safetyRecords.values :=
    Dict.mem_values_iff_get?.mpr ⟨owner, found⟩
  exact absurd active (owns.2 other listed ⟨named ▸ apart, refers⟩)

/-- Either the store knows the history of the controller's record and the controller owns its
runtime, or there is nothing that it could write. -/
def mayWriteRuntime (controller : ZoneController) (store : StoreData) : Bool :=
  controller.ownsZoneRuntime store ||
    match store.safetyRecords.get? controller.safetyRecordId,
        store.zoneHistories.get? controller.zoneHistoryId with
    | some record, some _ => record.zoneHistoryId ≠ controller.zoneHistoryId
    | _, _ => true

theorem keepsForeignHistory_of_mayWriteRuntime
    (may : controller.mayWriteRuntime shared.store = true) :
    controller.KeepsForeignHistory shared := by
  obtain owns | refused := Bool.or_eq_true _ _ ▸ may
  · exact keepsForeignHistory_of_ownsZoneRuntime owns
  · intro record history foundRecord refers foundHistory
    simp [foundRecord, foundHistory, refers] at refused

/-- A write of the runtime keeps the rule exactly when it repeats what another owner has. -/
theorem singleWriter_runtimeWritten_iff :
    SingleWriter controller.safetyRecordId shared.store.toStoreFields
        (controller.runtimeWritten shared).toStoreFields ↔
      controller.KeepsForeignHistory shared := by
  have rolled := controller.rollDaily_sameDecided shared.calendar shared.now
  have payload : ∀ record, shared.store.safetyRecords.get? controller.safetyRecordId = some record →
      (controller.rollDaily shared.calendar shared.now).persistPayload shared.store =
        updateControllerRuntime shared.store controller.safetyRecordId controller.zoneHistoryId
          ((controller.rollDaily shared.calendar shared.now).update record) := by
    intro record found
    simp only [persistPayload, rolled.safetyRecordId, rolled.zoneHistoryId, found]
  constructor
  · rintro single record history foundRecord owned foundHistory ⟨⟨faults, parted⟩, storable⟩
    have consistent := (ControllerUpdate.fields_consistent_iff shared.store.consistent foundRecord
      foundHistory owned parted).mpr storable
    have written := (payload record foundRecord).trans (updateControllerRuntime_eq_ok_iff.mpr
      ⟨record, history, faults, foundRecord, foundHistory, owned, parted,
        (rfl : (⟨_, StoreFields.holds_guards_iff.mpr consistent⟩ : StoreData).toStoreFields = _)⟩)
    simp only [runtimeWritten, written, Except.toOption, Option.getD_some] at single
    exact (ControllerUpdate.singleWriter_fields_iff foundRecord foundHistory owned parted).mp single
  · intro keeps
    unfold runtimeWritten
    cases written : (controller.rollDaily shared.calendar shared.now).persistPayload shared.store with
    | error err => exact .refl _ _
    | ok store =>
      cases known : shared.store.safetyRecords.get? controller.safetyRecordId with
      | none => simp [persistPayload, rolled.safetyRecordId, known] at written
      | some record =>
        obtain ⟨record', history, faults, foundRecord, foundHistory, owned, parted, stored⟩ :=
          updateControllerRuntime_eq_ok_iff.mp ((payload record known).symm.trans written)
        obtain rfl := Option.some.inj (known.symm.trans foundRecord)
        have storable := (ControllerUpdate.fields_consistent_iff shared.store.consistent known
          foundHistory owned parted).mp (stored ▸ store.consistent)
        simp only [Except.toOption, Option.getD_some, stored]
        exact (ControllerUpdate.singleWriter_fields_iff known foundHistory owned parted).mpr
          (keeps record history known owned foundHistory ⟨⟨faults, parted⟩, storable⟩)

/-- A step keeps the rule exactly when the write it makes repeats what another owner has. -/
theorem singleWriter_step_iff {next : ZoneController} {sessionId : String}
    (stepped : controller.step shared label sessionId = some (next, shared')) :
    SingleWriter controller.safetyRecordId shared.store.toStoreFields
        shared'.store.toStoreFields ↔
      (controller.writesRuntime label = true → controller.KeepsForeignHistory shared) := by
  have moved := step_storeMove stepped
  cases writes : controller.writesRuntime label with
  | true =>
    rw [moved.runtime writes, singleWriter_runtimeWritten_iff]
    exact ⟨fun keeps _ => keeps, fun keeps => keeps rfl⟩
  | false =>
    refine ⟨fun _ impossible => absurd impossible Bool.false_ne_true, fun _ => ?_⟩
    rcases moved.blocker writes with same | ⟨record, reason, active, found, stored⟩
    · rw [same]
      exact .refl _ _
    · rw [stored]
      exact .setRecord found rfl

end ZoneController

/-! ## Runs -/

/-- A step of the entry, or the persisting of one controller's state that the shutdown path
asks for. -/
inductive WriterLabel (κ : Type) where
  | entry (label : EntryLabel κ)
  | persistCurrentState (key : κ) (saved : Bool)

def WriterLabel.author {κ : Type} : WriterLabel κ → Option κ
  | .entry (.controller key _ _) => some key
  | .entry _ => none
  | .persistCurrentState key _ => some key

def WriterLabel.writesRuntime {κ : Type} (controller : ZoneController) : WriterLabel κ → Bool
  | .entry (.controller _ label _) => controller.writesRuntime label
  | .entry _ => false
  | .persistCurrentState _ saved => saved

namespace Entry

variable {κ : Type} [DecidableEq κ] {entry next : Entry κ} {label : WriterLabel κ} {key : κ}

/-- `async_persist_current_state` takes the lock and writes; a raise goes to its caller. -/
def persistCurrentState (entry : Entry κ) (key : κ) (saved : Bool) : Option (Entry κ) :=
  let rolled := (entry.controllers key).rollDaily entry.shared.calendar entry.shared.now
  if (entry.controllers key).locked = none then
    some
      { controllers := Function.update entry.controllers key rolled
        shared := { entry.shared with
          store := (rolled.persist entry.shared.store saved).toOption.getD entry.shared.store } }
  else none

def writers : LabelledSystem (Entry κ) (WriterLabel κ) where
  step entry label :=
    match label with
    | .entry label => entry.step label
    | .persistCurrentState key saved => entry.persistCurrentState key saved

/-- The write that the step makes on behalf of a record keeps the rule. -/
def WritesSingly (entry : Entry κ) (label : WriterLabel κ) (next : Entry κ) : Prop :=
  ∀ key, label.author = some key →
    SingleWriter (entry.controllers key).safetyRecordId entry.shared.store.toStoreFields
      next.shared.store.toStoreFields

/-- A controller that writes its runtime is one that the shutdown path would let write. -/
def RespectsOwners (entry : Entry κ) (label : WriterLabel κ) (_ : Entry κ) : Prop :=
  ∀ key, label.author = some key → label.writesRuntime (entry.controllers key) = true →
    (entry.controllers key).mayWriteRuntime entry.shared.store = true

theorem singleWriter_iff (stepped : writers.step entry label = some next)
    (authored : label.author = some key) :
    SingleWriter (entry.controllers key).safetyRecordId entry.shared.store.toStoreFields
        next.shared.store.toStoreFields ↔
      (label.writesRuntime (entry.controllers key) = true →
        (entry.controllers key).KeepsForeignHistory entry.shared) := by
  cases label with
  | entry label =>
    cases label with
    | controller acting label sessionId =>
      obtain rfl := Option.some.inj authored
      obtain ⟨⟨moved, shared⟩, moves, rfl⟩ := Option.map_eq_some_iff.mp stepped
      exact ZoneController.singleWriter_step_iff moves
    | tick | admission | storeChanged => cases authored
  | persistCurrentState acting saved =>
    obtain rfl := Option.some.inj authored
    have persisted := (Option.ite_none_right_eq_some.mp
      (show entry.persistCurrentState acting saved = some next from stepped)).2
    obtain rfl := Option.some.inj persisted
    simp only [ZoneController.store_of_persist, WriterLabel.writesRuntime]
    cases saved with
    | true =>
      rw [if_pos rfl, ZoneController.singleWriter_runtimeWritten_iff]
      exact ⟨fun keeps _ => keeps, fun keeps => keeps rfl⟩
    | false => exact ⟨fun _ impossible => absurd impossible Bool.false_ne_true, fun _ => .refl _ _⟩

theorem RespectsOwners.writesSingly (respects : entry.RespectsOwners label next)
    (stepped : writers.step entry label = some next) : entry.WritesSingly label next := by
  intro key authored
  refine (singleWriter_iff stepped authored).mpr fun writes => ?_
  exact ZoneController.keepsForeignHistory_of_mayWriteRuntime (respects key authored writes)

/-- Along every run whose controllers write their runtime only where they own it, all writes
keep the rule. -/
theorem writesSingly_of_run {start : Entry κ} {labels : List (WriterLabel κ)}
    (respects : writers.Along RespectsOwners start labels) :
    writers.Along WritesSingly start labels :=
  respects.mono fun _ _ _ stepped respects => respects.writesSingly stepped

/-- The step respects the owners, and neither the controller of the given owner nor another
transaction of the store makes it. -/
def LeavesToOwner (owner : String) (entry : Entry κ) (label : WriterLabel κ) (next : Entry κ) :
    Prop :=
  entry.RespectsOwners label next ∧
    (∀ key, label.author = some key → (entry.controllers key).safetyRecordId ≠ owner) ∧
    ∀ data, label ≠ .entry (.storeChanged data)

def KeptFor (owner zoneHistoryId : String) (history : ZoneHistory) (entry : Entry κ) : Prop :=
  entry.shared.store.OwnedBy owner zoneHistoryId ∧
    ∃ history', entry.shared.store.zoneHistories.get? zoneHistoryId = some history' ∧
      history.SameOperation history'

/-- While the owner of a history does nothing, the others leave the operation of its zone as
it is. -/
theorem operation_kept_of_run {start finish : Entry κ} {owner zoneHistoryId : String}
    {history : ZoneHistory} (reached : writers.Run (LeavesToOwner owner) start finish)
    (kept : KeptFor owner zoneHistoryId history start) :
    KeptFor owner zoneHistoryId history finish := by
  refine reached.preserves kept ?_
  intro entry label next held stepped guarded
  obtain ⟨⟨record, present, active, refers⟩, history', known, same⟩ := held
  obtain ⟨respects, foreign, transaction⟩ := guarded
  cases authored : label.author with
  | some key =>
    have single := respects.writesSingly stepped key authored
    have apart := (foreign key authored).symm
    obtain ⟨history'', known', again⟩ := single.operation zoneHistoryId history'
      ⟨owner, apart, record, present, active, refers⟩ known
    exact ⟨⟨record, (single.records owner apart).trans present, active, refers⟩, history'',
      known', same.trans again⟩
  | none =>
    -- Time and admission do not touch the store.
    have unchanged : next.shared.store = entry.shared.store := by
      cases label with
      | persistCurrentState => cases authored
      | entry label =>
        cases label with
        | controller => cases authored
        | storeChanged data => exact absurd rfl (transaction data)
        | tick | admission =>
          obtain rfl := Option.some.inj stepped
          rfl
    unfold KeptFor
    rw [unchanged]
    exact ⟨⟨record, present, active, refers⟩, history', known, same⟩

/-! ## The retained controller of a replaced actuator -/

/-- Zone `bed` waters with its new switch; the record of the old one, which had become
unavailable, still refers to the history. -/
def replacedStore : StoreData where
  generationId := "generation"
  storeRevision := 1
  run := ⟨some "run", none⟩
  zoneHistories :=
    ⟨[("history-a", { sampleHistory "history-a" "bed" with
        zoneRuntime := { (sampleHistory "history-a" "bed").zoneRuntime with
          state := .watering
          session := some ⟨"record-b", sampleSession⟩ } })], by decide +kernel⟩
  safetyRecords :=
    ⟨[("record-a", { sampleRecord "record-a" "bed" "history-a" "uuid-a" "switch.a" with
        activeSubentryId := none
        previousSubentryIds := ["bed"]
        runtimeLifecycle := .deletePending
        actuatorFault := some .actuatorUnavailable }),
      ("record-b", sampleRecord "record-b" "bed" "history-a" "uuid-b" "switch.b")],
      by decide +kernel⟩
  valid := by decide +kernel

/-- The retained controller, and the one that took over. -/
def replacedActuator : Entry Bool where
  controllers replacing :=
    if replacing then
      { sampleController with
        safetyRecordId := "record-b"
        state := .watering
        session := some sampleSession }
    else
      { sampleController with
        runtimeLifecycle := .deletePending
        runtimeEligible := false
        state := .fault
        activeFault := some .actuatorUnavailable
        assessment := ⟨false, false, false, Bool.and_false false⟩ }
  shared := { sampleShared with store := replacedStore }

/-- The old switch comes back and is off. -/
def faultClearedLabels : List (WriterLabel Bool) :=
  let labels : List ControllerLabel :=
    [.actuatorEvent ⟨true, true, false, Bool.and_false true⟩ false false, .actuatorChange,
      .provingOff true]
  labels.map fun label => .entry (.controller false label "")

/-- Whether a step respects the owners. -/
def ownersCheck (entry : Entry Bool) (label : WriterLabel Bool) (_ : Entry Bool) : Bool :=
  label.author.all fun key => !label.writesRuntime (entry.controllers key) ||
    (entry.controllers key).mayWriteRuntime entry.shared.store

theorem respectsOwners_of_check {entry next : Entry Bool} {label : WriterLabel Bool}
    (permitted : entry.ownersCheck label next = true) : entry.RespectsOwners label next := by
  intro key authored writes
  simpa [ownersCheck, authored, writes] using permitted

/-- Someone opens the old valve, and the state of the new one is persisted. -/
def openedByHandLabels : List (WriterLabel Bool) :=
  let labels : List ControllerLabel :=
    [.actuatorEvent ⟨true, false, true, Bool.false_and true⟩ false false, .actuatorChange,
      .act true, .act true]
  labels.map (fun label => .entry (.controller false label "")) ++ [.persistCurrentState true true]

/-- The retained record is blocked, then the runtime is written by its owner: two writes, and
the session of the new switch goes on. -/
theorem writesSingly_of_run_openedByHand :
    (∃ finish, writers.run replacedActuator openedByHandLabels = some finish ∧
      finish.shared.store.storeRevision = replacedStore.storeRevision + 2 ∧
      (finish.shared.store.safetyRecords.get? "record-a").any fun record =>
        decide (record.blockerReasons = [.externalFlow])) ∧
    writers.Along WritesSingly replacedActuator openedByHandLabels := by
  obtain ⟨finish, executed⟩ := Option.isSome_iff_exists.mp
    (show (writers.runWhile ownersCheck replacedActuator openedByHandLabels).isSome = true by
      decide +kernel)
  have runs : ((writers.run replacedActuator openedByHandLabels).any fun finish =>
      decide (finish.shared.store.storeRevision = replacedStore.storeRevision + 2) &&
        (finish.shared.store.safetyRecords.get? "record-a").any fun record =>
          decide (record.blockerReasons = [.externalFlow])) = true := by decide +kernel
  obtain ⟨reached, followed, writes⟩ := (Option.any_eq_true _ _).mp runs
  simp only [Bool.and_eq_true, decide_eq_true_eq] at writes
  exact ⟨⟨reached, followed, writes⟩, writesSingly_of_run
    (.of_runWhile (fun _ _ _ => respectsOwners_of_check) executed)⟩

/-- The auto-clear of the old fault ends the session of the new switch. -/
theorem not_writesSingly_faultCleared :
    ¬ ∀ (entry next : Entry Bool) (label : WriterLabel Bool),
      writers.Run (fun _ _ _ => True) replacedActuator entry →
      writers.step entry label = some next → entry.WritesSingly label next := by
  intro claimed
  have given : ((writers.run replacedActuator faultClearedLabels).any fun entry =>
      (writers.step entry (.entry (.controller false (.act true) ""))).any fun next =>
        (entry.controllers false).safetyRecordId = "record-a" &&
          decide (entry.shared.store.zoneHistories = replacedStore.zoneHistories) &&
          decide (entry.shared.store.safetyRecords = replacedStore.safetyRecords) &&
          (next.shared.store.zoneHistories.get? "history-a").any fun history =>
            history.zoneRuntime.session.isNone) = true := by decide +kernel
  obtain ⟨entry, executed, given⟩ := (Option.any_eq_true _ _).mp given
  obtain ⟨next, stepped, given⟩ := (Option.any_eq_true _ _).mp given
  simp only [Bool.and_eq_true, decide_eq_true_eq] at given
  obtain ⟨⟨⟨own, histories⟩, records⟩, ended⟩ := given
  obtain ⟨ended, stored, none'⟩ := (Option.any_eq_true _ _).mp ended
  have single := claimed entry next _ (LabelledSystem.Run.of_run executed) stepped false rfl
  rw [own] at single
  have owned : entry.shared.store.OwnedByOther "record-a" "history-a" := by
    refine ⟨"record-b", by decide, sampleRecord "record-b" "bed" "history-a" "uuid-b" "switch.b",
      ?_, rfl, rfl⟩
    rw [records]
    rfl
  obtain ⟨history, kept, same⟩ := single.operation "history-a" _ owned
    (by rw [histories]; rfl)
  obtain rfl := Option.some.inj (stored.symm.trans kept)
  rw [same.zoneRuntime] at none'
  cases none'

end Entry

end MoistureLoop
