import MoistureLoop.Controller.Rule
import MoistureLoop.Store.Updates

/-! # What a step does to the slot and to the store

A step keeps every record of the store, every slot owner but the one it releases, and
every live blocker key but the one it removes. -/

open MoistureLoop.Action

namespace MoistureLoop

/-! ## Writes keep the records -/

theorem ZoneController.persist_keys {controller : ZoneController} {data data' : StoreData}
    {saved : Bool} (persisted : controller.persist data saved = .ok data') :
    data'.safetyRecords.keys = data.safetyRecords.keys := by
  unfold persist persistPayload at persisted
  cases known : data.safetyRecords.get? controller.safetyRecordId with
  | none => simp [known] at persisted
  | some record =>
    simp only [known] at persisted
    split at persisted
    · cases persisted
    · rename_i written payload
      cases saved with
      | false => simp [saveAndVerify] at persisted
      | true =>
        simp only [saveAndVerify, if_true, Except.ok.injEq] at persisted
        subst persisted
        obtain ⟨record', history, faults, found, -, -, -, stored⟩ :=
          updateControllerRuntime_eq_ok_iff.mp payload
        rw [stored]
        exact Dict.keys_set_of_mem (Dict.isSome_get?_iff.mp (by rw [found]; rfl))

theorem persistSlotBlocker_keys {data data' : StoreData} {safetyRecordId : String}
    {reason : BlockerReason} {active saved : Bool}
    (persisted : persistSlotBlocker data safetyRecordId reason active saved = .ok data') :
    data'.safetyRecords.keys = data.safetyRecords.keys := by
  unfold persistSlotBlocker at persisted
  split at persisted
  · cases persisted
  · rename_i record found
    rcases setRecordBlocker_total reason active found with ⟨same, -⟩ | ⟨written, set, stored⟩
    · simp only [same, Except.ok.injEq] at persisted
      rw [← persisted]
    · simp only [set, saveAndVerify] at persisted
      split at persisted
      · obtain rfl := Except.ok.inj persisted
        rw [stored]
        exact Dict.keys_set_of_mem (Dict.isSome_get?_iff.mp (by rw [found]; rfl))
      · cases persisted

namespace ZoneController

/-! ## What a step may release and remove -/

/-- The zone whose slot the step releases: by the action of an application, or because the
slot task finds its controller ineligible. -/
def releasedZone (controller : ZoneController) (shared : SharedState) (label : ControllerLabel) :
    Option String :=
  match label with
  | .act _ => if controller.ahead.head? = some releaseSlot then some controller.zoneId else none
  | .slotResume =>
    match controller.slotTask with
    | some (.waiting request) =>
      if request ∈ shared.slots.granted ∧ controller.runtimeEligible = false then
        some controller.zoneId
      else none
    | _ => none
  | _ => none

def removedKey (controller : ZoneController) (label : ControllerLabel) : Option BlockerKey :=
  match label with
  | .act _ =>
    match controller.ahead.head? with
    | some (removeBlocker reason) => some (controller.safetyRecordId, reason)
    | _ => none
  | .provingOff _ => some (controller.safetyRecordId, .actuatorNotProvenOff)
  | _ => none

structure SharedMove (controller : ZoneController) (label : ControllerLabel)
    (shared shared' : SharedState) : Prop where
  calendar : shared'.calendar = shared.calendar
  now : shared'.now = shared.now
  records : shared'.store.safetyRecords.keys = shared.store.safetyRecords.keys
  owner : ∀ zoneId, shared.slots.owner = some zoneId → shared'.slots.owner = some zoneId ∨
    controller.releasedZone shared label = some zoneId
  blockers : ∀ key ∈ shared.slots.blockers, key ∈ shared'.slots.blockers ∨
    controller.removedKey label = some key

variable {controller : ZoneController} {shared shared' : SharedState} {label : ControllerLabel}

theorem SharedMove.refl (controller : ZoneController) (label : ControllerLabel)
    (shared : SharedState) : SharedMove controller label shared shared :=
  ⟨rfl, rfl, rfl, fun _ owned => .inl owned, fun _ live => .inl live⟩

/-- Only the store moves. -/
theorem SharedMove.of_store {store : StoreData}
    (records : store.safetyRecords.keys = shared.store.safetyRecords.keys) :
    SharedMove controller label shared { shared with store := store } :=
  ⟨rfl, rfl, records, fun _ owned => .inl owned, fun _ live => .inl live⟩

/-- A slot operation that keeps owner and keys. -/
theorem SharedMove.of_slots {slots : SlotManager}
    (owner : ∀ zoneId, shared.slots.owner = some zoneId → slots.owner = some zoneId)
    (blockers : slots.blockers = shared.slots.blockers) :
    SharedMove controller label shared { shared with slots := slots } :=
  ⟨rfl, rfl, rfl, fun zoneId owned => .inl (owner zoneId owned),
    fun _ live => .inl (blockers ▸ live)⟩

theorem SharedMove.of_removeBlocker {reason : BlockerReason} {saved : Bool}
    (removed : controller.removedKey label = some (controller.safetyRecordId, reason)) :
    SharedMove controller label shared
      (shared.removeBlocker (controller.safetyRecordId, reason) saved).1 := by
  unfold SharedState.removeBlocker
  split
  · exact .refl _ _ _
  · split
    · exact .refl _ _ _
    · rename_i persisted
      refine ⟨rfl, rfl, persistSlotBlocker_keys persisted,
        fun zoneId owned => .inl (SlotManager.tryGrant_owner_of_some owned), fun key live => ?_⟩
      by_cases same : key = (controller.safetyRecordId, reason)
      · exact .inr (same ▸ removed)
      · exact .inl (SlotManager.mem_removeLive_blockers.mpr ⟨live, same⟩)

theorem SharedMove.of_addBlocker {key : BlockerKey} {saved : Bool} :
    SharedMove controller label shared (shared.addBlocker key saved).1 := by
  unfold SharedState.addBlocker
  split
  · exact .refl _ _ _
  · simp only
    split
    · exact ⟨rfl, rfl, rfl, fun zoneId owned => .inl owned, fun other live =>
        .inl (SlotManager.mem_addLive_blockers.mpr (.inr live))⟩
    · rename_i persisted
      exact ⟨rfl, rfl, persistSlotBlocker_keys persisted, fun zoneId owned => .inl owned,
        fun other live => .inl (SlotManager.mem_addLive_blockers.mpr (.inr live))⟩

/-- What the next action of an application keeps. -/
theorem applyAction_sharedMove {action : Action} {saved : Bool} {rest : List Action}
    (ahead : controller.ahead = action :: rest) :
    SharedMove controller (.act saved) shared (controller.applyAction shared action saved).1.2 := by
  cases action with
  | persistState tag =>
    have same := controller.rollDaily_sameDecided shared.calendar shared.now
    simp only [applyAction]
    split
    · exact .refl _ _ _
    · rename_i persisted
      exact .of_store (persist_keys persisted)
  | releaseSlot =>
    refine ⟨rfl, rfl, rfl, fun zoneId owned => ?_, fun key live => .inl ?_⟩
    · by_cases same : zoneId = controller.zoneId
      · exact .inr (by simp [releasedZone, ahead, same])
      · exact .inl (SlotManager.release_owner owned same)
    · simpa [applyAction] using live
  | addBlocker reason => exact .of_addBlocker
  | removeBlocker reason => exact .of_removeBlocker (by simp [removedKey, ahead])
  | _ => exact .refl _ _ _

theorem act_sharedMove {saved : Bool} {decision : Decision} {input : TransitionInput}
    {rest : List Action} {applier : Applier}
    (locked : controller.locked = some (.applying decision input rest applier)) :
    SharedMove controller (.act saved) shared
      (controller.act shared saved decision input applier rest).2 := by
  cases rest with
  | nil => exact .refl _ _ _
  | cons action rest =>
    have moved : SharedMove controller (.act saved) shared
        (controller.applyAction shared action saved).1.2 :=
      applyAction_sharedMove (show controller.ahead = action :: rest by simp [ahead, locked])
    simp only [act]
    generalize controller.applyAction shared action saved = result at moved ⊢
    obtain ⟨⟨acted, shared'⟩, raised⟩ := result
    cases raised with
    | none => exact moved
    | some err => cases err <;> exact moved

theorem anchor_sharedMove {saved : Bool} :
    SharedMove controller label shared (controller.anchor shared saved).2 := by
  simp only [anchor]
  split
  · rename_i persisted
    exact .of_store (persist_keys persisted)
  · exact .refl _ _ _
  · exact .refl _ _ _

theorem slotStep_sharedMove {next : ZoneController} {sessionId : String}
    (stepped : controller.slotStep shared label sessionId = some (next, shared')) :
    SharedMove controller label shared shared' := by
  unfold slotStep at stepped
  split at stepped
  · obtain ⟨-, rfl⟩ := Prod.mk.inj (Option.some.inj stepped)
    exact .of_slots (fun zoneId owned => SlotManager.request_owner owned)
      (SlotManager.request_blockers shared.slots controller.zoneId)
  · rename_i request waiting
    split at stepped
    · rename_i granted
      split at stepped
      · obtain ⟨-, rfl⟩ := Prod.mk.inj (Option.some.inj stepped)
        exact .refl _ _ _
      · rename_i ineligible
        obtain ⟨-, rfl⟩ := Prod.mk.inj (Option.some.inj stepped)
        refine ⟨rfl, rfl, rfl, fun zoneId owned => ?_, fun key live => .inl (by simpa using live)⟩
        by_cases same : zoneId = controller.zoneId
        · exact .inr (by simp [releasedZone, waiting, granted, ineligible, same])
        · exact .inl (SlotManager.release_owner owned same)
    · cases stepped
  · split at stepped
    · obtain ⟨-, rfl⟩ := Prod.mk.inj (Option.some.inj stepped)
      exact .refl _ _ _
    · cases stepped
  · obtain ⟨-, rfl⟩ := Prod.mk.inj (Option.some.inj stepped)
    exact .of_slots (fun zoneId owned => owned) rfl
  · cases stepped

theorem actuatorStep_sharedMove {next : ZoneController} {sessionId : String}
    (stepped : controller.actuatorStep shared label sessionId = some (next, shared')) :
    SharedMove controller label shared shared' := by
  unfold actuatorStep at stepped
  split at stepped
  · obtain ⟨-, rfl⟩ := Prod.mk.inj (Option.some.inj stepped)
    exact .refl _ _ _
  · split at stepped
    · cases stepped
    · simp only at stepped
      split at stepped <;>
      · obtain ⟨-, rfl⟩ := Prod.mk.inj (Option.some.inj stepped)
        exact .refl _ _ _
  · rename_i saved change active held
    have moved : SharedMove controller (.provingOff saved) shared
        (shared.removeBlocker (controller.safetyRecordId, .actuatorNotProvenOff) saved).1 :=
      .of_removeBlocker rfl
    generalize shared.removeBlocker (controller.safetyRecordId, .actuatorNotProvenOff) saved
      = result at moved stepped
    obtain ⟨removed, raised⟩ := result
    cases raised with
    | some err =>
      obtain ⟨-, rfl⟩ := Prod.mk.inj (Option.some.inj stepped)
      exact moved
    | none =>
      simp only at stepped
      split at stepped <;>
      · obtain ⟨-, rfl⟩ := Prod.mk.inj (Option.some.inj stepped)
        exact moved
  · cases stepped

theorem sessionStep_sharedMove {next : ZoneController} {sessionId : String}
    (stepped : controller.sessionStep shared label sessionId = some (next, shared')) :
    SharedMove controller label shared shared' := by
  unfold sessionStep at stepped
  split at stepped
  · obtain ⟨woken, -, same⟩ := Option.map_eq_some_iff.mp stepped
    obtain ⟨-, rfl⟩ := Prod.mk.inj same
    exact .refl _ _ _
  · obtain ⟨-, rfl⟩ := Prod.mk.inj (Option.some.inj stepped)
    exact .refl _ _ _
  · obtain ⟨-, rfl⟩ := Prod.mk.inj (Option.some.inj stepped)
    exact .refl _ _ _
  · obtain ⟨-, rfl⟩ := Prod.mk.inj (Option.some.inj stepped)
    exact .refl _ _ _
  · rename_i saved _ _
    have moved : SharedMove controller (.anchor saved) shared (controller.anchor shared saved).2 :=
      anchor_sharedMove
    rwa [show controller.anchor shared saved = (next, shared') from Option.some.inj stepped] at moved
  · obtain ⟨-, rfl⟩ := Prod.mk.inj (Option.some.inj stepped)
    exact .refl _ _ _
  · split at stepped
    · obtain ⟨-, rfl⟩ := Prod.mk.inj (Option.some.inj stepped)
      exact .refl _ _ _
    · cases stepped
  · cases stepped

/-- What one step keeps of the shared state. -/
theorem step_sharedMove {next : ZoneController} {sessionId : String}
    (stepped : controller.step shared label sessionId = some (next, shared')) :
    SharedMove controller label shared shared' := by
  cases label with
  | dispatch event | setEnabled enabled =>
    simp only [step] at stepped
    split at stepped
    · obtain ⟨-, rfl⟩ := Prod.mk.inj (Option.some.inj stepped)
      exact .refl _ _ _
    · cases stepped
  | moisture observation =>
    simp only [step] at stepped
    split at stepped
    · split at stepped <;>
      · obtain ⟨-, rfl⟩ := Prod.mk.inj (Option.some.inj stepped)
        exact .refl _ _ _
    · cases stepped
  | act saved =>
    simp only [step] at stepped
    split at stepped
    · rename_i decision input rest applier locked
      have moved : SharedMove controller (.act saved) shared
          (controller.act shared saved decision input applier rest).2 := act_sharedMove locked
      rwa [show controller.act shared saved decision input applier rest = (next, shared') from
        Option.some.inj stepped] at moved
    · cases stepped
  | actuatorEvent | actuatorChange | provingOff =>
    simp only [step] at stepped
    exact actuatorStep_sharedMove stepped
  | slotRequest | slotResume | slotOffer | slotCancelled =>
    simp only [step] at stepped
    exact slotStep_sharedMove stepped
  | wake | gate | serviceReturned | reenter | anchor | recheck | offJoined =>
    simp only [step] at stepped
    exact sessionStep_sharedMove stepped
  | offServiceReturned | offProofEnded | offAborted | offDispatch =>
    simp only [step] at stepped
    obtain ⟨moved, -, same⟩ := Option.map_eq_some_iff.mp stepped
    obtain ⟨-, rfl⟩ := Prod.mk.inj same
    exact .refl _ _ _
  | ensureOff | quiesce | updateOwnership =>
    obtain ⟨-, rfl⟩ := Prod.mk.inj (Option.some.inj stepped)
    exact .refl _ _ _

/-! ## A step keeps the identity of its controller -/

def identity (controller : ZoneController) : String × String :=
  (controller.zoneId, controller.safetyRecordId)

theorem SameCore.identity {next : ZoneController} (same : SameCore controller next) :
    next.identity = controller.identity := by
  simp [ZoneController.identity, same.zoneId, same.safetyRecordId]

theorem Frame.identity {next : ZoneController} (frame : Frame controller next) :
    next.identity = controller.identity := by
  simp [ZoneController.identity, frame.zoneId, frame.safetyRecordId]

theorem decideAndApply_identity (event : ControllerEvent) (applier : Applier)
    (sessionId : String) :
    (controller.decideAndApply shared event applier sessionId).identity = controller.identity := by
  have rolled := controller.rollDaily_sameDecided shared.calendar shared.now
  rcases controller.decideAndApply_cases shared event applier sessionId with
    ⟨raised, applied⟩ | ⟨decision, -, -, applied⟩
  · rw [applied]
    exact (rolled.sameCore.trans (afterApply_sameCore _ applier raised).1).identity
  · rw [applied]
    exact (controller.applyPrelude_rolled shared decision _).1.identity

theorem ensureOffOperation_identity (requestedFor : Option PulseId) (compensating : Bool) :
    (controller.ensureOffOperation requestedFor compensating).identity = controller.identity := by
  simp only [identity, ensureOffOperation, beginOffOperation]
  split <;> rfl

theorem compensate_identity (configurationChanged serviceFailed : Bool) :
    (controller.compensate shared configurationChanged serviceFailed).identity =
      controller.identity := by
  have frame := (controller.commitOnCompensationNow_spec shared configurationChanged
    serviceFailed).1
  simp only [compensate]
  split
  · exact frame.identity
  · exact (ensureOffOperation_identity _ _).trans frame.identity

theorem act_identity {saved : Bool} {decision : Decision} {input : TransitionInput}
    {rest : List Action} {applier : Applier} :
    (controller.act shared saved decision input applier rest).1.identity =
      controller.identity := by
  cases rest with
  | nil =>
    exact (controller.applyFinish_sameCore.trans (afterApply_sameCore _ applier false).1).identity
  | cons action rest =>
    have acted := controller.applyAction_decided shared action saved
    simp only [act]
    generalize controller.applyAction shared action saved = result at acted ⊢
    obtain ⟨⟨acting, shared'⟩, raised⟩ := result
    obtain ⟨-, -, -, -, zoneId, safetyRecordId, -⟩ := acted
    have same : acting.identity = controller.identity := by
      simpa [identity] using ⟨zoneId, safetyRecordId⟩
    have ended : ∀ raised, (acting.afterApply applier raised).identity = controller.identity :=
      fun raised => (acting.afterApply_sameCore applier raised).1.identity.trans same
    cases raised with
    | none => exact Eq.trans (by cases action <;> rfl) same
    | some err =>
      cases err with
      | storeWriteVerification _ =>
        obtain ⟨-, zoneId', safetyRecordId', -⟩ := acting.handlePersistFailure_spec
        exact (acting.handlePersistFailure.afterApply_sameCore applier false).1.identity.trans
          (by simpa [identity, zoneId', safetyRecordId'] using same)
      | _ => exact ended true

theorem closed_identity (identified : String × String) :
    ClosedCore (fun controller => controller.identity = identified) fun _ => True where
  sameCore same core _ := core.identity.trans same
  decided event applier sessionId same _ _ :=
    (decideAndApply_identity event applier sessionId).trans same
  compensated _ configurationChanged serviceFailed same _ :=
    (compensate_identity configurationChanged serviceFailed).trans same
  ensured requestedFor compensating same :=
    (ensureOffOperation_identity requestedFor compensating).trans same
  begun requestedFor same := by
    rcases beginOffOperation_cases _ requestedFor with ⟨joined, -⟩ | begun
    · rw [joined]
      exact same
    · rw [begun]
      exact same
  recorded _ same := same
  failed {controller} same _ := by
    obtain ⟨-, zoneId, safetyRecordId, -⟩ := controller.handlePersistFailure_spec
    simpa [identity, zoneId, safetyRecordId] using same

theorem step_identity {next : ZoneController} {sessionId : String}
    (stepped : controller.step shared label sessionId = some (next, shared')) :
    next.identity = controller.identity := by
  refine (closed_identity controller.identity).step trivial rfl ?_ (.inr ?_) stepped
  · exact fun saved decision input rest applier _ _ => act_identity
  · exact fun _ configurationChanged serviceFailed same =>
      (compensate_identity configurationChanged serviceFailed).trans same

end ZoneController

/-! ## Steps of an entry -/

theorem AdmissionChange.apply_owner {change : AdmissionChange} {slots : SlotManager}
    {zoneId : String} (owned : slots.owner = some zoneId) :
    (change.apply slots).owner = some zoneId := by
  cases change with
  | enableGrants | setReconciliation => exact SlotManager.tryGrant_owner_of_some owned
  | _ => exact owned

theorem AdmissionChange.apply_blockers (change : AdmissionChange) (slots : SlotManager) :
    (change.apply slots).blockers = slots.blockers := by
  cases change with
  | enableGrants | setReconciliation => exact SlotManager.tryGrant_blockers _
  | _ => rfl

namespace Entry

variable {κ : Type} [DecidableEq κ] {entry next : Entry κ} {label : EntryLabel κ}

/-- What a step keeps that no controller makes. -/
structure EnvironmentMove (entry : Entry κ) (label : EntryLabel κ) (next : Entry κ) : Prop where
  controllers : next.controllers = entry.controllers
  now : next.shared.now = entry.shared.now ∨ label = .tick next.shared.now
  records : ∀ safetyRecordId ∈ entry.shared.store.safetyRecords.keys,
    safetyRecordId ∈ next.shared.store.safetyRecords.keys
  owner : ∀ zoneId, entry.shared.slots.owner = some zoneId →
    next.shared.slots.owner = some zoneId
  blockers : next.shared.slots.blockers = entry.shared.slots.blockers

/-- The steps of an entry are the steps of one controller, or keep all controllers. -/
theorem step_cases (stepped : entry.step label = some next) :
    (∃ key label' sessionId controller shared, label = .controller key label' sessionId ∧
      (entry.controllers key).step entry.shared label' sessionId = some (controller, shared) ∧
      next = ⟨Function.update entry.controllers key controller, shared⟩) ∨
    entry.EnvironmentMove label next := by
  cases label with
  | controller key label' sessionId =>
    obtain ⟨⟨controller, shared⟩, moved, rfl⟩ := Option.map_eq_some_iff.mp stepped
    exact .inl ⟨key, label', sessionId, controller, shared, rfl, moved, rfl⟩
  | tick now =>
    obtain rfl := Option.some.inj stepped
    exact .inr ⟨rfl, .inr rfl, fun _ known => known, fun _ owned => owned, rfl⟩
  | admission change =>
    obtain rfl := Option.some.inj stepped
    exact .inr ⟨rfl, .inl rfl, fun _ known => known, fun _ owned => change.apply_owner owned,
      change.apply_blockers _⟩
  | storeChanged data =>
    simp only [step] at stepped
    split at stepped
    · rename_i kept
      obtain rfl := Option.some.inj stepped
      exact .inr ⟨rfl, .inl rfl, kept, fun _ owned => owned, rfl⟩
    · cases stepped

theorem step_identity (stepped : entry.step label = some next) (key : κ) :
    (next.controllers key).identity = (entry.controllers key).identity := by
  rcases step_cases stepped with
    ⟨acting, label', sessionId, controller, shared, -, moved, rfl⟩ | moved
  · by_cases same : key = acting
    · subst same
      simpa using ZoneController.step_identity moved
    · simp [Function.update_of_ne same]
  · rw [moved.controllers]

/-- The records of the controllers are in the store. -/
def RecordsKnown (entry : Entry κ) : Prop :=
  ∀ key, (entry.controllers key).safetyRecordId ∈ entry.shared.store.safetyRecords.keys

theorem RecordsKnown.step (known : entry.RecordsKnown) (stepped : entry.step label = some next) :
    next.RecordsKnown := by
  intro key
  have same : (next.controllers key).safetyRecordId = (entry.controllers key).safetyRecordId :=
    congrArg Prod.snd (step_identity stepped key)
  rw [same]
  rcases step_cases stepped with
    ⟨acting, label', sessionId, controller, shared, -, moved, rfl⟩ | moved
  · simpa [(ZoneController.step_sharedMove moved).records] using known key
  · exact moved.records _ (known key)

/-- The sample zone while a manual session waters. -/
def sampleWatering : Entry Unit :=
  ⟨fun _ => { sampleController with state := .watering, session := some sampleSession },
    sampleShared⟩

/-- Two idle zones with free slot. -/
def twoZones : Entry Bool :=
  let lawn : ZoneController := { sampleController with
    zoneId := "lawn"
    safetyRecordId := "record-b"
    zoneHistoryId := "history-b" }
  ⟨fun second => if second then lawn else sampleController,
    { sampleShared with slots := { grantsEnabled := true }, store := sampleTwoZones }⟩

end Entry

end MoistureLoop
