import MoistureLoop.Controller.Frames

/-! # OFF proof in a resting zone

A zone in IDLE, DISABLED or FAULT can hold an open session and external occupancy
at once.  The branches of the three states return after the first match, so one
OFF proof settles the zone only when a single branch covers everything that is
open. -/

open MoistureLoop.Action

namespace MoistureLoop

/-! ## Blocker keys, live and stored -/

namespace SharedState

/-- The key is in the slot manager's set. -/
def LiveKey (shared : SharedState) (safetyRecordId : String) (reason : BlockerReason) : Prop :=
  (safetyRecordId, reason) ∈ shared.slots.blockers

def StoredKey (shared : SharedState) (safetyRecordId : String) (reason : BlockerReason) : Prop :=
  ∃ record, shared.store.safetyRecords.get? safetyRecordId = some record ∧
    reason ∈ record.blockerReasons

def KeepsKey (shared : SharedState) (safetyRecordId : String) (reason : BlockerReason) : Prop :=
  shared.LiveKey safetyRecordId reason ∨ shared.StoredKey safetyRecordId reason

/-- Removal starts from the live key: a stored key that is not live stays. -/
def KeyRemovable (shared : SharedState) (safetyRecordId : String) (reason : BlockerReason) :
    Prop :=
  shared.StoredKey safetyRecordId reason → shared.LiveKey safetyRecordId reason

end SharedState

/-- Removing a reason removes exactly that reason. -/
theorem SafetyRecord.mem_withBlocker_false (record : SafetyRecord) (reason other : BlockerReason)
    (valid : Checked.Holds record.guards) :
    other ∈ (record.withBlocker reason false).blockerReasons ↔
      other ≠ reason ∧ other ∈ record.blockerReasons := by
  simp only [SafetyRecord.guards, Checked.holds_append, Checked.holds_cons, Bool.not_eq_eq_eq_not,
    Bool.not_false, decide_eq_true_eq] at valid
  simp only [SafetyRecord.withBlocker, mem_orderBlockers, Bool.false_eq_true, if_false]
  exact valid.2.2.2.2.1.mem_erase_iff

namespace SharedState

/-- A successful removal frees the key unless it is stored without being live. -/
theorem keepsKey_removeBlocker {shared shared' : SharedState} {safetyRecordId : String}
    {reason : BlockerReason}
    (removed : shared.removeBlocker (safetyRecordId, reason) true = (shared', none)) :
    (shared'.KeepsKey safetyRecordId reason ↔ ¬ shared.KeyRemovable safetyRecordId reason) ∧
    ∀ other, other ≠ reason →
      (shared'.KeepsKey safetyRecordId other ↔ shared.KeepsKey safetyRecordId other) := by
  unfold removeBlocker at removed
  split at removed
  · rename_i absent
    obtain ⟨rfl, -⟩ := Prod.mk.inj removed
    refine ⟨?_, fun other _ => Iff.rfl⟩
    simp only [KeepsKey, KeyRemovable, LiveKey, absent, false_or, imp_false, not_not]
  · rename_i live
    have live : (safetyRecordId, reason) ∈ shared.slots.blockers := not_not.mp live
    -- What is stored afterwards, from the write that must precede the removal.
    have stored : ∀ store, persistSlotBlocker shared.store safetyRecordId reason false true
        = .ok store → ∀ other,
        (∃ record, store.safetyRecords.get? safetyRecordId = some record ∧
          other ∈ record.blockerReasons) ↔
        other ≠ reason ∧ shared.StoredKey safetyRecordId other := by
      intro store persisted other
      unfold persistSlotBlocker at persisted
      cases found : shared.store.safetyRecords.get? safetyRecordId with
      | none => simp [found] at persisted
      | some record =>
        have valid := shared.store.consistent.records _ _ found
        have member := record.mem_withBlocker_false reason other valid
        simp only [found] at persisted
        rcases setRecordBlocker_total reason false found with ⟨written, same⟩ | ⟨data, written, set⟩
        · simp only [written] at persisted
          obtain rfl := Except.ok.inj persisted
          rw [same] at member
          simp only [StoredKey, found, Option.some.injEq, exists_eq_left']
          exact member
        · simp only [written, saveAndVerify, if_true] at persisted
          obtain rfl := Except.ok.inj persisted
          simp only [StoredKey, found, set, StoreFields.setRecord, Dict.get?_set_self,
            Option.some.injEq, exists_eq_left']
          exact member
    split at removed
    · cases removed
    · rename_i store persisted
      obtain ⟨rfl, -⟩ := Prod.mk.inj removed
      have stored := stored store persisted
      refine ⟨?_, fun other differs => ?_⟩
      · simp only [KeepsKey, KeyRemovable, LiveKey, StoredKey, SlotManager.mem_removeLive_blockers,
          stored reason, live]
        simp
      · simp only [KeepsKey, LiveKey, StoredKey, SlotManager.mem_removeLive_blockers,
          stored other]
        simp [differs]

/-- Two states with the same live keys and stored reasons keep the same keys. -/
theorem keepsKey_congr (shared shared' : SharedState)
    (live : shared'.slots.blockers = shared.slots.blockers)
    (stored : ∀ safetyRecordId reason,
      shared'.StoredKey safetyRecordId reason ↔ shared.StoredKey safetyRecordId reason)
    (safetyRecordId : String) (reason : BlockerReason) :
    (shared'.KeepsKey safetyRecordId reason ↔ shared.KeepsKey safetyRecordId reason) ∧
    (shared'.KeyRemovable safetyRecordId reason ↔
      shared.KeyRemovable safetyRecordId reason) := by
  simp only [KeepsKey, KeyRemovable, LiveKey, live, stored, and_self]

/-- Slot ownership says nothing about keys. -/
theorem keepsKey_withSlots (shared : SharedState) {slots : SlotManager}
    (live : slots.blockers = shared.slots.blockers) {safetyRecordId : String}
    {reason : BlockerReason} :
    ({ shared with slots := slots } : SharedState).KeepsKey safetyRecordId reason ↔
      shared.KeepsKey safetyRecordId reason := by
  simp only [KeepsKey, LiveKey, StoredKey, live]

end SharedState

theorem ZoneController.persist_storedKey {controller : ZoneController} {shared : SharedState}
    {store : StoreData} {saved : Bool}
    (persisted : controller.persist shared.store saved = .ok store) (safetyRecordId : String)
    (reason : BlockerReason) :
    ({ shared with store := store } : SharedState).StoredKey safetyRecordId reason ↔
      shared.StoredKey safetyRecordId reason := by
  unfold persist persistPayload at persisted
  cases known : shared.store.safetyRecords.get? controller.safetyRecordId with
  | none => simp [known] at persisted
  | some record =>
    simp only [known] at persisted
    split at persisted
    · cases persisted
    · rename_i data payload
      cases saved with
      | false => simp [saveAndVerify] at persisted
      | true =>
        simp only [saveAndVerify, if_true] at persisted
        obtain rfl := Except.ok.inj persisted
        obtain ⟨record', history, faults, found, -, -, -, stored⟩ :=
          updateControllerRuntime_eq_ok_iff.mp payload
        simp only [SharedState.StoredKey, stored, ControllerUpdate.fields]
        by_cases own : safetyRecordId = controller.safetyRecordId
        · subst own
          simp [found, ControllerUpdate.record]
        · rw [Dict.get?_set_of_ne _ _ own]

/-! ## The OFF decisions of a resting zone -/

def ControllerState.isResting : ControllerState → Bool
  | .idle | .disabled | .fault => true
  | .watering | .soaking => false

def ControllerEvent.isOffEvidence : ControllerEvent → Bool
  | .externalActuatorOff _ | .offConfirmed _ => true
  | _ => false

def ControllerEvent.isExternalOff : ControllerEvent → Bool
  | .externalActuatorOff _ => true
  | _ => false

namespace ZoneController

/-- The OFF evidence takes the branch that closes the open accounting.  IDLE has no
such branch, and in DISABLED external occupancy comes first. -/
def ClosesAccounting (controller : ZoneController) (event : ControllerEvent) : Prop :=
  controller.session ≠ none ∧ controller.state ≠ .idle ∧
    (controller.state = .fault ∨ event.isExternalOff = false ∨ controller.externalOn = false)

/-- The OFF evidence takes the branch that releases external occupancy; in FAULT an
open session comes first. -/
def ReleasesExternal (controller : ZoneController) (event : ControllerEvent) : Prop :=
  event.isExternalOff = true ∧ controller.externalOn = true ∧
    (controller.state = .fault → controller.session = none)

variable {controller : ZoneController} {shared : SharedState} {event : ControllerEvent}
  {sessionId : String}

theorem ReleasesExternal.not_closes (releases : controller.ReleasesExternal event) :
    ¬ controller.ClosesAccounting event := by
  rintro ⟨session, -, branch⟩
  obtain ⟨external, occupied, fault⟩ := releases
  rcases branch with inFault | confirmed | unoccupied
  · exact session (fault inFault)
  · simp [external] at confirmed
  · simp [occupied] at unoccupied

private theorem offEvidence_cases (evidence : event.isOffEvidence = true) :
    ∃ offAt, event = .externalActuatorOff offAt ∨ event = .offConfirmed offAt := by
  cases event with
  | externalActuatorOff offAt => exact ⟨offAt, .inl rfl⟩
  | offConfirmed offAt => exact ⟨offAt, .inr rfl⟩
  | _ => cases evidence

/-- The closing branch raises exactly when the committed reason is gone. -/
theorem decide_closesAccounting (shared : SharedState) (sessionId : String)
    (resting : controller.state.isResting = true)
    (evidence : event.isOffEvidence = true) (closes : controller.ClosesAccounting event) :
    ∃ session offAt, controller.session = some session ∧
      StateMachine.decide (controller.buildInput shared event sessionId) =
        match session.pendingTerminationReason with
        | none => .error .assertion
        | some reason =>
          .ok
            { actions := [persistState "delayed_accounting_closed",
                removeBlocker .integrationOffUnconfirmed, releaseSlot, emitSessionFinished]
              reason := some reason
              clearSession := true
              finalSession := some (StateMachine.closeRuntime session offAt reason) } := by
  obtain ⟨present, notIdle, branch⟩ := closes
  obtain ⟨session, held⟩ := Option.ne_none_iff_exists'.mp present
  obtain ⟨offAt, kind⟩ := offEvidence_cases evidence
  refine ⟨session, offAt, held, ?_⟩
  have closing : StateMachine.decide (controller.buildInput shared event sessionId) =
      StateMachine.closeOpenAccounting (controller.buildInput shared event sessionId) offAt := by
    cases state : controller.state with
    | idle => exact absurd state notIdle
    | watering | soaking => simp [state, ControllerState.isResting] at resting
    | fault =>
      rcases kind with rfl | rfl <;>
        simp [StateMachine.decide, StateMachine.decideFault, buildInput, state, held]
    | disabled =>
      rcases kind with rfl | rfl
      · have unoccupied : controller.externalOn = false := by
          simpa [state, ControllerEvent.isExternalOff] using branch
        simp [StateMachine.decide, StateMachine.decideDisabled, buildInput, state, held,
          unoccupied]
      · simp [StateMachine.decide, StateMachine.decideDisabled, buildInput, state, held]
  rw [closing]
  cases pending : session.pendingTerminationReason <;>
    simp only [StateMachine.closeOpenAccounting, buildInput, held, pending]

theorem decide_releasesExternal (shared : SharedState) (sessionId : String)
    (resting : controller.state.isResting = true)
    (releases : controller.ReleasesExternal event) :
    ∃ transitionId newState,
      StateMachine.decide (controller.buildInput shared event sessionId) =
        .ok
          { transitionId := transitionId
            newState := newState
            actions := [setExternalOn false, removeBlocker .externalFlow] } := by
  obtain ⟨external, occupied, fault⟩ := releases
  cases event with
  | externalActuatorOff offAt =>
    cases state : controller.state with
    | watering | soaking => simp [state, ControllerState.isResting] at resting
    | idle =>
      exact ⟨some "T58", some .idle, by
        simp [StateMachine.decide, StateMachine.decideIdle, buildInput, state, occupied]⟩
    | disabled =>
      exact ⟨some "T59", some .disabled, by
        simp [StateMachine.decide, StateMachine.decideDisabled, buildInput, state, occupied]⟩
    | fault =>
      exact ⟨none, none, by
        simp [StateMachine.decide, StateMachine.decideFault, buildInput, state, occupied,
          fault state]⟩
  | _ => cases external

/-- Outside the two branches the evidence changes nothing, or clears a fault. -/
theorem decide_quiet (shared : SharedState) (sessionId : String)
    (resting : controller.state.isResting = true)
    (evidence : event.isOffEvidence = true) (closes : ¬ controller.ClosesAccounting event)
    (releases : ¬ controller.ReleasesExternal event) :
    ∃ decision, StateMachine.decide (controller.buildInput shared event sessionId) =
        .ok decision ∧
      (decision = StateMachine.noOp ∨ ∃ fault, decision =
        { transitionId := some "T42"
          newState := some .idle
          actions := [persistState "fault_cleared", emitFaultCleared fault]
          clearFault := true }) := by
  obtain ⟨offAt, kind⟩ := offEvidence_cases evidence
  simp only [ClosesAccounting, not_and, not_or, ne_eq] at closes
  simp only [ReleasesExternal, not_and, Classical.not_imp] at releases
  cases state : controller.state with
  | watering | soaking => simp [state, ControllerState.isResting] at resting
  | idle =>
    refine ⟨StateMachine.noOp, ?_, .inl rfl⟩
    rcases kind with rfl | rfl
    · have unoccupied : controller.externalOn = false := by
        simpa [state, ControllerEvent.isExternalOff] using releases
      simp [StateMachine.decide, StateMachine.decideIdle, buildInput, state, unoccupied]
    · simp [StateMachine.decide, StateMachine.decideIdle, buildInput, state]
  | disabled =>
    refine ⟨StateMachine.noOp, ?_, .inl rfl⟩
    rcases kind with rfl | rfl
    · have unoccupied : controller.externalOn = false := by
        simpa [state, ControllerEvent.isExternalOff] using releases
      have absent : controller.session = none := by
        by_contra present
        exact (closes present (by simp [state])).2.2 unoccupied
      simp [StateMachine.decide, StateMachine.decideDisabled, buildInput, state, unoccupied,
        absent]
    · have absent : controller.session = none := by
        by_contra present
        exact (closes present (by simp [state])).2.1 rfl
      simp [StateMachine.decide, StateMachine.decideDisabled, buildInput, state, absent]
  | fault =>
    have absent : controller.session = none := by
      by_contra present
      exact (closes present (by simp [state])).1 state
    rcases kind with rfl | rfl
    · have unoccupied : controller.externalOn = false := by
        by_contra occupied
        exact (releases rfl (by simpa using occupied)).2 absent
      refine ⟨StateMachine.faultAutoClearCheck _, by
        simp [StateMachine.decide, StateMachine.decideFault, buildInput, state, unoccupied,
          absent]; rfl, ?_⟩
      unfold StateMachine.faultAutoClearCheck
      split
      · exact .inl rfl
      · split
        · exact .inl rfl
        · split
          · exact .inl rfl
          · exact .inr ⟨_, rfl⟩
    · refine ⟨StateMachine.noOp, ?_, .inl rfl⟩
      simp [StateMachine.decide, StateMachine.decideFault, buildInput, state, absent]

/-! ## What each branch settles -/

@[simp] theorem applyFinish_session (controller : ZoneController) :
    controller.applyFinish.session = controller.session := by
  unfold applyFinish
  split <;> rfl

@[simp] theorem applyFinish_externalOn (controller : ZoneController) :
    controller.applyFinish.externalOn = controller.externalOn := by
  unfold applyFinish
  split <;> rfl

/-- Nothing is open any more: neither a session, nor external occupancy, nor one of the
two keys that OFF evidence disproves. -/
structure Settled (controller : ZoneController) (shared : SharedState)
    (safetyRecordId : String) : Prop where
  session : controller.session = none
  externalOn : controller.externalOn = false
  integrationOffUnconfirmed : ¬ shared.KeepsKey safetyRecordId .integrationOffUnconfirmed
  externalFlow : ¬ shared.KeepsKey safetyRecordId .externalFlow

/-- The event is decided, and after its actions the zone is settled. -/
def Settles (controller : ZoneController) (shared : SharedState) (event : ControllerEvent)
    (sessionId : String) : Prop :=
  (∀ err, controller.dispatch shared event sessionId ≠ .error (.decide err)) ∧
  ∀ controller' shared', controller.dispatch shared event sessionId = .ok (controller', shared') →
    controller'.Settled shared' controller.safetyRecordId

/-- One branch of the decision covers everything that is open: the session can only be
closed by the closing branch, which needs the committed reason; the occupancy only by the
releasing branch; and each of them removes one key. -/
structure SingleBranchCovers (controller : ZoneController) (shared : SharedState)
    (event : ControllerEvent) : Prop where
  session : ∀ session, controller.session = some session →
    controller.ClosesAccounting event ∧ session.pendingTerminationReason.isSome
  externalOn : controller.externalOn = true → controller.ReleasesExternal event
  integrationOffUnconfirmed :
    shared.KeepsKey controller.safetyRecordId .integrationOffUnconfirmed →
      controller.ClosesAccounting event ∧
        shared.KeyRemovable controller.safetyRecordId .integrationOffUnconfirmed
  externalFlow :
    shared.KeepsKey controller.safetyRecordId .externalFlow →
      controller.ReleasesExternal event ∧
        shared.KeyRemovable controller.safetyRecordId .externalFlow

private theorem rolled_branches (calendar : LocalCalendar) (now : Instant) :
    ((controller.rollDaily calendar now).ClosesAccounting event ↔
      controller.ClosesAccounting event) ∧
    ((controller.rollDaily calendar now).ReleasesExternal event ↔
      controller.ReleasesExternal event) := by
  have same := controller.rollDaily_sameDecided calendar now
  simp only [ClosesAccounting, ReleasesExternal, same.session, same.state, same.externalOn,
    and_self]

/-- The releasing branch frees the occupancy and its key and nothing else. -/
theorem dispatch_releasesExternal (shared : SharedState) (sessionId : String)
    (resting : controller.state.isResting = true)
    (releases : controller.ReleasesExternal event) :
    (∀ err, controller.dispatch shared event sessionId ≠ .error (.decide err)) ∧
    ∀ controller' shared',
      controller.dispatch shared event sessionId = .ok (controller', shared') →
      controller'.session = controller.session ∧ controller'.externalOn = false ∧
      (shared'.KeepsKey controller.safetyRecordId .integrationOffUnconfirmed ↔
        shared.KeepsKey controller.safetyRecordId .integrationOffUnconfirmed) ∧
      (shared'.KeepsKey controller.safetyRecordId .externalFlow ↔
        ¬ shared.KeyRemovable controller.safetyRecordId .externalFlow) := by
  have same := controller.rollDaily_sameDecided shared.calendar shared.now
  obtain ⟨transitionId, newState, decided⟩ := decide_releasesExternal shared sessionId (same.state ▸ resting)
    ((rolled_branches shared.calendar shared.now).2.mpr releases)
  have record : ∀ decision input, ((controller.rollDaily shared.calendar shared.now).applyPrelude
      shared decision input).safetyRecordId = controller.safetyRecordId := fun decision input =>
    ((applyPrelude_frame _ _ _ _).safetyRecordId).trans same.safetyRecordId
  simp only [dispatch, decided, applyActions, applyAction, record]
  rcases removed : shared.removeBlocker (controller.safetyRecordId, .externalFlow) true
    with ⟨freed, raised⟩
  cases raised with
  | some err => simp
  | none =>
    have keys := SharedState.keepsKey_removeBlocker removed
    refine ⟨by simp, fun controller' shared' applied => ?_⟩
    simp only [Bool.false_eq_true, if_false, Except.ok.injEq, Prod.mk.injEq] at applied
    obtain ⟨rfl, rfl⟩ := applied
    exact ⟨by simp [same.session], by simp, keys.2 _ (by decide), keys.1⟩

/-- The closing branch frees the session and its key and nothing else. -/
theorem dispatch_closesAccounting (shared : SharedState) (sessionId : String)
    (resting : controller.state.isResting = true)
    (evidence : event.isOffEvidence = true) (closes : controller.ClosesAccounting event) :
    ∃ session, controller.session = some session ∧
    ((∀ err, controller.dispatch shared event sessionId ≠ .error (.decide err)) ↔
      session.pendingTerminationReason.isSome) ∧
    ∀ controller' shared',
      controller.dispatch shared event sessionId = .ok (controller', shared') →
      controller'.session = none ∧ controller'.externalOn = controller.externalOn ∧
      (shared'.KeepsKey controller.safetyRecordId .integrationOffUnconfirmed ↔
        ¬ shared.KeyRemovable controller.safetyRecordId .integrationOffUnconfirmed) ∧
      (shared'.KeepsKey controller.safetyRecordId .externalFlow ↔
        shared.KeepsKey controller.safetyRecordId .externalFlow) := by
  have same := controller.rollDaily_sameDecided shared.calendar shared.now
  obtain ⟨session, offAt, held, decided⟩ := decide_closesAccounting shared sessionId (same.state ▸ resting) evidence
    ((rolled_branches shared.calendar shared.now).1.mpr closes)
  refine ⟨session, same.session ▸ held, ?_⟩
  cases pending : session.pendingTerminationReason with
  | none =>
    simp only [pending] at decided
    simp [dispatch, decided]
  | some reason =>
    simp only [pending] at decided
    have frame : ∀ decision input, Frame controller
        ((controller.rollDaily shared.calendar shared.now).applyPrelude shared decision input) :=
      fun decision input => same.toFrame.trans (applyPrelude_frame _ _ _ _)
    simp only [dispatch, decided, Bool.false_eq_true, if_false]
    generalize adopted : (controller.rollDaily shared.calendar shared.now).applyPrelude shared _ _
      = prelude
    have cleared : prelude.session = none := by simp [← adopted]
    have prelude_frame : Frame controller prelude := adopted ▸ frame _ _
    have rolled := prelude.rollDaily_sameDecided shared.calendar shared.now
    simp only [applyActions, applyAction]
    cases persisted : (prelude.rollDaily shared.calendar shared.now).persist shared.store true with
    | error err => simp
    | ok store =>
      simp only [rolled.safetyRecordId, prelude_frame.safetyRecordId]
      rcases removed : ({ shared with store := store } : SharedState).removeBlocker
        (controller.safetyRecordId, .integrationOffUnconfirmed) true with ⟨freed, raised⟩
      cases raised with
      | some err => simp
      | none =>
        have written := SharedState.keepsKey_congr shared { shared with store := store } rfl
          (persist_storedKey persisted) controller.safetyRecordId
        have keys := SharedState.keepsKey_removeBlocker removed
        refine ⟨by simp, fun controller' shared' applied => ?_⟩
        simp only [Except.ok.injEq, Prod.mk.injEq] at applied
        obtain ⟨rfl, rfl⟩ := applied
        refine ⟨by simp [rolled.session, cleared],
          by simp [rolled.externalOn, prelude_frame.externalOn], ?_, ?_⟩
        · rw [SharedState.keepsKey_withSlots freed (by simp), keys.1, (written _).2]
        · rw [SharedState.keepsKey_withSlots freed (by simp), keys.2 _ (by decide),
            (written _).1]

/-- Outside the two branches nothing that is open is settled. -/
theorem dispatch_quiet (shared : SharedState) (sessionId : String)
    (resting : controller.state.isResting = true)
    (evidence : event.isOffEvidence = true) (closes : ¬ controller.ClosesAccounting event)
    (releases : ¬ controller.ReleasesExternal event) :
    (∀ err, controller.dispatch shared event sessionId ≠ .error (.decide err)) ∧
    ∀ controller' shared',
      controller.dispatch shared event sessionId = .ok (controller', shared') →
      controller'.session = controller.session ∧
      controller'.externalOn = controller.externalOn ∧
      ∀ reason, shared'.KeepsKey controller.safetyRecordId reason ↔
        shared.KeepsKey controller.safetyRecordId reason := by
  have same := controller.rollDaily_sameDecided shared.calendar shared.now
  obtain ⟨decision, decided, kind⟩ := decide_quiet shared sessionId
    (same.state ▸ resting) evidence
    (mt (rolled_branches shared.calendar shared.now).1.mp closes)
    (mt (rolled_branches shared.calendar shared.now).2.mp releases)
  simp only [dispatch, decided]
  rcases kind with rfl | ⟨fault, rfl⟩
  · refine ⟨by simp [StateMachine.noOp], fun controller' shared' applied => ?_⟩
    simp only [StateMachine.noOp, if_true, Except.ok.injEq, Prod.mk.injEq] at applied
    obtain ⟨rfl, rfl⟩ := applied
    exact ⟨same.session, same.externalOn, fun _ => Iff.rfl⟩
  · simp only [Bool.false_eq_true, if_false]
    generalize adopted : (controller.rollDaily shared.calendar shared.now).applyPrelude shared _ _
      = prelude
    have kept : prelude.session = controller.session := by simp [← adopted, same.session]
    have external : prelude.externalOn = controller.externalOn := by
      rw [← adopted, (applyPrelude_frame _ _ _ _).externalOn, same.externalOn]
    have rolled := prelude.rollDaily_sameDecided shared.calendar shared.now
    simp only [applyActions, applyAction]
    cases persisted : (prelude.rollDaily shared.calendar shared.now).persist shared.store true with
    | error err => simp
    | ok store =>
      refine ⟨by simp, fun controller' shared' applied => ?_⟩
      simp only [Except.ok.injEq, Prod.mk.injEq] at applied
      obtain ⟨rfl, rfl⟩ := applied
      have written := SharedState.keepsKey_congr shared { shared with store := store } rfl
        (persist_storedKey persisted)
      exact ⟨by simp [rolled.session, kept], by simp [rolled.externalOn, external],
        fun reason => (written _ reason).1⟩

/-! ## Settling a resting zone -/

/-- What OFF evidence settles, over all branches: each thing that is open stays open
unless the branch taken is its own. -/
theorem dispatch_offEvidence (shared : SharedState) (sessionId : String)
    (resting : controller.state.isResting = true)
    (evidence : event.isOffEvidence = true) :
    ((∀ err, controller.dispatch shared event sessionId ≠ .error (.decide err)) ↔
      (controller.ClosesAccounting event → ∀ session, controller.session = some session →
        session.pendingTerminationReason.isSome)) ∧
    ∀ controller' shared',
      controller.dispatch shared event sessionId = .ok (controller', shared') →
      (controller'.session = none ↔
        (controller.session ≠ none → controller.ClosesAccounting event)) ∧
      (controller'.externalOn = false ↔
        (controller.externalOn = true → controller.ReleasesExternal event)) ∧
      (¬ shared'.KeepsKey controller.safetyRecordId .integrationOffUnconfirmed ↔
        (shared.KeepsKey controller.safetyRecordId .integrationOffUnconfirmed →
          controller.ClosesAccounting event ∧
            shared.KeyRemovable controller.safetyRecordId .integrationOffUnconfirmed)) ∧
      (¬ shared'.KeepsKey controller.safetyRecordId .externalFlow ↔
        (shared.KeepsKey controller.safetyRecordId .externalFlow →
          controller.ReleasesExternal event ∧
            shared.KeyRemovable controller.safetyRecordId .externalFlow)) := by
  by_cases closes : controller.ClosesAccounting event
  · obtain ⟨session, held, decided, effect⟩ := dispatch_closesAccounting shared sessionId resting evidence closes
    have notReleases : ¬ controller.ReleasesExternal event :=
      fun releases => releases.not_closes closes
    refine ⟨by simp [decided, closes, held], fun controller' shared' run => ?_⟩
    obtain ⟨cleared, external, integrationKey, externalKey⟩ := effect _ _ run
    refine ⟨by simp [cleared, closes], by simp [external, notReleases], ?_,
      by simp [externalKey, notReleases]⟩
    simp only [integrationKey, not_not, closes, true_and]
    exact ⟨fun removable _ => removable, fun covered stored => covered (.inr stored) stored⟩
  · by_cases releases : controller.ReleasesExternal event
    · obtain ⟨decided, effect⟩ := dispatch_releasesExternal shared sessionId resting releases
      refine ⟨by simp [closes, decided], fun controller' shared' run => ?_⟩
      obtain ⟨session, external, integrationKey, externalKey⟩ := effect _ _ run
      refine ⟨by simp [session, closes], by simp [external, releases],
        by simp [integrationKey, closes], ?_⟩
      simp only [externalKey, not_not, releases, true_and]
      exact ⟨fun removable _ => removable, fun covered stored => covered (.inr stored) stored⟩
    · obtain ⟨decided, effect⟩ := dispatch_quiet shared sessionId
        resting evidence closes releases
      refine ⟨by simp [closes, decided], fun controller' shared' run => ?_⟩
      obtain ⟨session, external, keys⟩ := effect _ _ run
      simp [session, external, keys, closes, releases]

/-- An event that is decided and applied without an error has a result. -/
private theorem dispatch_ok
    (decided : ∀ err, controller.dispatch shared event sessionId ≠ .error (.decide err))
    (applied : ∀ err, controller.dispatch shared event sessionId ≠ .error (.apply err)) :
    ∃ controller' shared',
      controller.dispatch shared event sessionId = .ok (controller', shared') := by
  cases run : controller.dispatch shared event sessionId with
  | ok result => exact ⟨result.1, result.2, rfl⟩
  | error raised =>
    cases raised with
    | decide err => exact absurd run (decided err)
    | apply err => exact absurd run (applied err)

/-- When its actions are applied successfully, OFF evidence settles a resting zone
exactly when a single branch covers everything that is open. -/
theorem settles_iff_singleBranchCovers (controller : ZoneController) (shared : SharedState)
    (event : ControllerEvent) (sessionId : String)
    (resting : controller.state.isResting = true) (evidence : event.isOffEvidence = true)
    (applied : ∀ err, controller.dispatch shared event sessionId ≠ .error (.apply err)) :
    controller.Settles shared event sessionId ↔ controller.SingleBranchCovers shared event := by
  obtain ⟨decided, effect⟩ := dispatch_offEvidence shared sessionId resting evidence
  constructor
  · rintro ⟨noError, settled⟩
    obtain ⟨controller', shared', run⟩ := dispatch_ok noError applied
    obtain ⟨session, external, integrationKey, externalKey⟩ := effect _ _ run
    have settled := settled _ _ run
    refine ⟨fun held same => ?_, external.mp settled.externalOn,
      integrationKey.mp settled.integrationOffUnconfirmed, externalKey.mp settled.externalFlow⟩
    have closes := session.mp settled.session (by simp [same])
    exact ⟨closes, decided.mp noError closes _ same⟩
  · intro covers
    refine ⟨decided.mpr fun _ held same => (covers.session held same).2, ?_⟩
    intro controller' shared' run
    obtain ⟨session, external, integrationKey, externalKey⟩ := effect _ _ run
    refine ⟨session.mpr fun present => ?_, external.mpr covers.externalOn,
      integrationKey.mpr covers.integrationOffUnconfirmed, externalKey.mpr covers.externalFlow⟩
    obtain ⟨held, same⟩ := Option.ne_none_iff_exists'.mp present
    exact (covers.session held same).1

/-- A manual start whose OFF stays unproven. -/
def unprovenFaultEvents : List (ControllerEvent × String) :=
  [(.manualStartRequested (some 60), "session"), (.onConfirmTimeout, ""), (.offNotConfirmed, "")]

/-- OFF evidence in FAULT closes the session that is open and frees its key: the closing branch
covers all there is. -/
theorem settles_iff_singleBranchCovers_unproven :
    ∃ controller shared,
      sampleController.dispatchAll sampleShared unprovenFaultEvents = .ok (controller, shared) ∧
      controller.state = .fault ∧ controller.session.isSome = true ∧
      shared.LiveKey "record-a" .integrationOffUnconfirmed ∧
      (controller.Settles shared (.externalActuatorOff 200) "" ↔
        controller.SingleBranchCovers shared (.externalActuatorOff 200)) ∧
      controller.Settles shared (.externalActuatorOff 200) "" := by
  have given : (sampleController.dispatchAll sampleShared unprovenFaultEvents).toOption.any
      (fun result =>
        decide (result.1.safetyRecordId = "record-a") && decide (result.1.state = .fault) &&
          !result.1.externalOn &&
          result.1.session.any (fun session => session.pendingTerminationReason.isSome) &&
          decide (("record-a", BlockerReason.integrationOffUnconfirmed) ∈
            result.2.slots.blockers) &&
          decide (("record-a", BlockerReason.externalFlow) ∉ result.2.slots.blockers) &&
          (result.2.store.safetyRecords.get? "record-a").all
            (fun record => decide (BlockerReason.externalFlow ∉ record.blockerReasons)) &&
          (result.1.dispatch result.2 (.externalActuatorOff 200) "").toOption.isSome) = true := by
    decide +kernel
  obtain ⟨⟨controller, shared⟩, reached, given⟩ := (Option.any_eq_true _ _).mp given
  simp only [Bool.and_eq_true, decide_eq_true_eq, Bool.not_eq_true', Option.any_eq_true,
    Option.all_eq_true] at given
  obtain ⟨⟨⟨⟨⟨⟨⟨own, fault⟩, unoccupied⟩, session, held, committed⟩, live⟩, noFlow⟩, noStored⟩,
    applies⟩ := given
  have reached : sampleController.dispatchAll sampleShared unprovenFaultEvents =
      .ok (controller, shared) := by
    cases ran : sampleController.dispatchAll sampleShared unprovenFaultEvents with
    | error _ => simp [ran, Except.toOption] at reached
    | ok result => simpa [ran, Except.toOption] using reached
  have settles := settles_iff_singleBranchCovers controller shared (.externalActuatorOff 200) ""
    (by rw [fault]; rfl) rfl fun err raised => by simp [raised, Except.toOption] at applies
  have closes : controller.ClosesAccounting (.externalActuatorOff 200) :=
    ⟨by simp [held], by simp [fault], .inl fault⟩
  have covers : controller.SingleBranchCovers shared (.externalActuatorOff 200) := by
    refine ⟨fun other same => ?_, fun occupied => ?_, fun _ => ⟨closes, fun _ => own ▸ live⟩,
      fun kept => ?_⟩
    · obtain rfl := Option.some.inj (held.symm.trans same)
      exact ⟨closes, committed⟩
    · simp [unoccupied] at occupied
    · rw [own] at kept
      obtain flow | ⟨record, found, stored⟩ := kept
      · exact absurd flow noFlow
      · exact absurd stored (noStored record found)
  exact ⟨controller, shared, reached, fault, by simp [held], live, settles, settles.mpr covers⟩

/-- Then water flows from outside. -/
def occupiedFaultEvents : List (ControllerEvent × String) :=
  unprovenFaultEvents ++ [(.externalActuatorOn, "")]

private def offLeavesOccupied : Bool :=
  match sampleController.dispatchAll sampleShared occupiedFaultEvents with
  | .error _ => false
  | .ok (controller, shared) =>
    decide (controller.state = .fault) &&
      match controller.dispatch shared (.externalActuatorOff 200) "" with
      | .error _ => false
      | .ok (controller', shared') =>
        controller'.externalOn &&
          decide (("record-a", BlockerReason.externalFlow) ∈ shared'.slots.blockers)

/-- The OFF evidence of a FAULT zone closes the session and returns: the zone still counts
as externally occupied, and its external-flow key stays. -/
theorem not_settles_occupied_fault :
    ¬ ∀ controller shared,
      sampleController.dispatchAll sampleShared occupiedFaultEvents = .ok (controller, shared) →
      controller.state.isResting = true →
      controller.Settles shared (.externalActuatorOff 200) "" := by
  intro settles
  have occupied : offLeavesOccupied = true := by decide +kernel
  unfold offLeavesOccupied at occupied
  split at occupied
  · cases occupied
  · rename_i controller shared reached
    simp only [Bool.and_eq_true, decide_eq_true_eq] at occupied
    obtain ⟨fault, occupied⟩ := occupied
    have settles := (settles controller shared reached (by rw [fault]; rfl)).2
    split at occupied
    · cases occupied
    · rename_i controller' shared' run
      have settled := settles controller' shared' run
      simp [settled.externalOn] at occupied

end ZoneController

end MoistureLoop
