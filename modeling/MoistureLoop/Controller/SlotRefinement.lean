import MoistureLoop.Controller.Shared
import MoistureLoop.Controller.SlotMoves

/-! # The controllers follow the slot bookkeeping

`SlotClaims` keeps of a controller what decides about its slot request.  Every run of an entry
is a run of it: each step of a controller is answered by the bookkeeping steps of its zone and
by the operations of the manager, and leaves the other zones alone. -/

open MoistureLoop.Action

namespace MoistureLoop

/-! ## The bookkeeping of a controller -/

/-- The slot task of a controller among the positions of `_await_slot`. -/
def SlotTask.position : SlotTask → RequestTask
  | starting => .starting
  | waiting request => .waiting request
  | offering pendingManual => .offering pendingManual

namespace ZoneController

def application (controller : ZoneController) : Option (List Action × Applier) :=
  match controller.locked with
  | some (.applying _ _ rest applier) => some (rest, applier)
  | _ => none

/-- The slot bookkeeping of a controller.  A RequestSlot that is ahead counts as executed: no
other coroutine runs between the decision and this action. -/
def bookkeeping (controller : ZoneController) : ZoneSlot where
  runtimeEligible := controller.runtimeEligible
  pendingManual := controller.pendingManual
  slotTask :=
    (if requestSlot ∈ controller.ahead then controller.ensureSlotRequest.slotTask
    else controller.slotTask).map SlotTask.position

/-- RequestSlot is the only action of its application, and a slot task for which a decision is
applied offers its grant. -/
structure Orderly (controller : ZoneController) : Prop where
  alone : requestSlot ∈ controller.ahead → controller.ahead = [requestSlot]
  offering : ∀ rest, controller.application = some (rest, .slot) →
    ∃ pendingManual, controller.slotTask = some (.offering pendingManual)

/-- `next` has the slot part of `controller`, and continues its application or none. -/
structure KeepsSlot (controller next : ZoneController) : Prop where
  zoneId : next.zoneId = controller.zoneId
  runtimeEligible : next.runtimeEligible = controller.runtimeEligible
  pendingManual : next.pendingManual = controller.pendingManual
  slotTask : next.slotTask = controller.slotTask
  application : next.application = controller.application ∨ next.application = none

variable {controller next : ZoneController} {shared shared' : SharedState}
  {label : ControllerLabel} {sessionId : String}

theorem ensureSlotRequest_slotTask (controller : ZoneController) :
    controller.ensureSlotRequest.slotTask =
      if controller.runtimeEligible then controller.slotTask.or (some .starting)
      else controller.slotTask := by
  unfold ensureSlotRequest
  split <;> rfl

theorem ahead_eq_application (controller : ZoneController) :
    controller.ahead = (controller.application.map Prod.fst).getD [] := by
  cases locked : controller.locked with
  | none => simp [ahead, application, locked]
  | some holder => cases holder <;> simp [ahead, application, locked]

theorem KeepsSlot.refl (controller : ZoneController) : KeepsSlot controller controller :=
  ⟨rfl, rfl, rfl, rfl, .inl rfl⟩

theorem KeepsSlot.trans {third : ZoneController} (left : KeepsSlot controller next)
    (right : KeepsSlot next third) : KeepsSlot controller third where
  zoneId := right.zoneId.trans left.zoneId
  runtimeEligible := right.runtimeEligible.trans left.runtimeEligible
  pendingManual := right.pendingManual.trans left.pendingManual
  slotTask := right.slotTask.trans left.slotTask
  application := by
    rcases right.application with same | ended
    · exact left.application.imp same.trans same.trans
    · exact .inr ended

theorem Frame.keepsSlot (frame : Frame controller next)
    (pendingManual : next.pendingManual = controller.pendingManual) :
    KeepsSlot controller next :=
  ⟨frame.zoneId, frame.runtimeEligible, pendingManual, frame.slotTask,
    .inl (by simp only [application, frame.locked])⟩

theorem KeepsSlot.rested (keeps : KeepsSlot controller next)
    (rested : requestSlot ∉ controller.ahead) : requestSlot ∉ next.ahead := by
  rw [ahead_eq_application] at rested ⊢
  rcases keeps.application with same | ended
  · rwa [same]
  · simp [ended]

theorem bookkeeping_of_rested (rested : requestSlot ∉ controller.ahead) :
    controller.bookkeeping =
      { runtimeEligible := controller.runtimeEligible
        pendingManual := controller.pendingManual
        slotTask := controller.slotTask.map SlotTask.position } := by
  simp [bookkeeping, rested]

theorem KeepsSlot.bookkeeping (keeps : KeepsSlot controller next)
    (rested : requestSlot ∉ controller.ahead) : next.bookkeeping = controller.bookkeeping := by
  rw [bookkeeping_of_rested rested, bookkeeping_of_rested (keeps.rested rested), keeps.slotTask,
    keeps.runtimeEligible, keeps.pendingManual]

theorem KeepsSlot.orderly (keeps : KeepsSlot controller next)
    (rested : requestSlot ∉ controller.ahead) (orderly : controller.Orderly) : next.Orderly where
  alone requests := absurd requests (keeps.rested rested)
  offering rest offers := by
    rcases keeps.application with same | ended
    · rw [keeps.slotTask]
      exact orderly.offering rest (same ▸ offers)
    · simp [ended] at offers

/-! ## Answers of the bookkeeping -/

structure Answered (controller : ZoneController) (slots : SlotManager) (next : ZoneController)
    (slots' : SlotManager) : Prop where
  zoneId : next.zoneId = controller.zoneId
  orderly : controller.Orderly → next.Orderly
  moves : ZoneSlot.Moves controller.zoneId controller.bookkeeping slots next.bookkeeping slots'

variable {slots slots' slots'' : SlotManager}

theorem Answered.trans {third : ZoneController} (left : Answered controller slots next slots')
    (right : Answered next slots' third slots'') : Answered controller slots third slots'' where
  zoneId := right.zoneId.trans left.zoneId
  orderly := right.orderly ∘ left.orderly
  moves := left.moves.trans (left.zoneId ▸ right.moves)

/-- The slot part rests while the manager acts. -/
theorem Answered.of_manages (zoneId : next.zoneId = controller.zoneId)
    (orderly : controller.Orderly → next.Orderly)
    (same : next.bookkeeping = controller.bookkeeping) (manages : slots.Manages slots') :
    Answered controller slots next slots' :=
  ⟨zoneId, orderly, same ▸ .of_manages manages⟩

/-- Nothing that concerns the slot has moved. -/
theorem KeepsSlot.answered (keeps : KeepsSlot controller next)
    (rested : requestSlot ∉ controller.ahead) : Answered controller slots next slots :=
  .of_manages keeps.zoneId (keeps.orderly rested) (keeps.bookkeeping rested) (.refl slots)

/-! ## Decisions -/

theorem rollDaily_keepsSlot (controller : ZoneController) (calendar : LocalCalendar)
    (now : Instant) : KeepsSlot controller (controller.rollDaily calendar now) :=
  (controller.rollDaily_sameDecided calendar now).toFrame.keepsSlot (by
    unfold rollDaily
    split <;> rfl)

theorem setOffPhase_keepsSlot (controller : ZoneController) (operation : Nat) (phase : OffPhase) :
    KeepsSlot controller (controller.setOffPhase operation phase) :=
  ⟨rfl, rfl, rfl, rfl, .inl rfl⟩

/-- The end of an application that no slot task waits for. -/
theorem afterApply_keepsSlot (controller : ZoneController) {applier : Applier}
    (other : applier ≠ .slot) (raised : Bool) :
    KeepsSlot controller (controller.afterApply applier raised) := by
  have released : KeepsSlot controller { controller with locked := none } :=
    ⟨rfl, rfl, rfl, rfl, .inr rfl⟩
  cases applier with
  | event => exact released
  | slot => exact absurd rfl other
  | offOperation operation =>
    simp only [afterApply]
    split
    · exact released
    · split <;> exact ⟨rfl, rfl, rfl, rfl, .inr rfl⟩
  | refusal => exact ⟨rfl, rfl, rfl, rfl, .inr rfl⟩
  | confirmation => cases raised <;> exact ⟨rfl, rfl, rfl, rfl, .inr rfl⟩

/-- The slot task ends with the application of its event. -/
theorem afterApply_slot_answered (rested : requestSlot ∉ controller.ahead)
    {pendingManual : Option Seconds} (task : controller.slotTask = some (.offering pendingManual))
    (raised : Bool) :
    Answered controller slots (controller.afterApply .slot raised) slots := by
  refine ⟨rfl, fun _ => ⟨by simp [afterApply, ahead], by simp [afterApply, application]⟩,
    .of_setZone (.finishTask controller.zoneId) fun state _ held => ?_⟩
  have offers : (state.zones controller.zoneId).slotTask = some (.offering pendingManual) := by
    simp [held, bookkeeping_of_rested rested, task, SlotTask.position]
  have ended : { state.zones controller.zoneId with slotTask := none } =
      (controller.afterApply .slot raised).bookkeeping := by
    rw [bookkeeping_of_rested (by simp [afterApply, ahead]), held, bookkeeping_of_rested rested]
    simp [afterApply]
  rw [← ended]
  simp only [SlotClaims.step, offers]

theorem afterApply_answered {applier : Applier} (rested : requestSlot ∉ controller.ahead)
    (offering : applier = .slot → ∃ pendingManual,
      controller.slotTask = some (.offering pendingManual)) (raised : Bool) :
    Answered controller slots (controller.afterApply applier raised) slots := by
  by_cases slot : applier = .slot
  · obtain ⟨pendingManual, task⟩ := offering slot
    subst slot
    exact afterApply_slot_answered rested task raised
  · exact (controller.afterApply_keepsSlot slot raised).answered rested

@[simp] theorem chargeGrowth_pendingManual (controller : ZoneController) (shared : SharedState)
    (decision : Decision) (input : TransitionInput) :
    (controller.chargeGrowth shared decision input).pendingManual = controller.pendingManual := by
  have rolled := (controller.rollDaily_keepsSlot shared.calendar shared.now).pendingManual
  unfold chargeGrowth
  simp only
  split
  · rfl
  · split
    · simp only [chargeRuntime]
      split <;> exact rolled
    · rfl

@[simp] theorem housekeepTimers_pendingManual (controller : ZoneController)
    (previous : ControllerState) :
    (controller.housekeepTimers previous).pendingManual = controller.pendingManual := by
  unfold housekeepTimers
  simp only
  repeat' split
  all_goals rfl

@[simp] theorem finalizeSummary_pendingManual (controller : ZoneController)
    (reason : Option CompletionReason) (closed : SessionContext) (now : Instant) :
    (controller.finalizeSummary reason closed now).pendingManual = controller.pendingManual := by
  unfold finalizeSummary
  split <;> rfl

theorem applyPrelude_records (controller : ZoneController) (shared : SharedState)
    (decision : Decision) (input : TransitionInput) :
    ∃ adopted : ZoneController, adopted.pendingManual = controller.pendingManual ∧
      controller.applyPrelude shared decision input =
        adopted.recordPendingManual decision input := by
  unfold applyPrelude
  refine ⟨_, ?_, rfl⟩
  simp only [housekeepTimers_pendingManual]
  have started : ∀ other : ZoneController, other.pendingManual = controller.pendingManual →
      ((other.adopt decision).chargeGrowth shared decision input).pendingManual =
        controller.pendingManual := fun other same => by simpa [adopt] using same
  split
  · apply started
    repeat' split
    all_goals rfl
  · simp only [finalizeSummary_pendingManual]
    apply started
    repeat' split
    all_goals rfl

def recordedManual (decision : Decision) (input : TransitionInput) : Option Seconds :=
  match input.event with
  | .manualStartRequested requestedS =>
    if requestSlot ∈ decision.actions then requestedS else none
  | _ => none

/-- A recorded duration replaces the one before. -/
theorem applyPrelude_pendingManual (controller : ZoneController) (shared : SharedState)
    {decision : Decision} {input : TransitionInput}
    (decided : StateMachine.decide input = .ok decision) :
    (controller.applyPrelude shared decision input).pendingManual =
      (recordedManual decision input).or controller.pendingManual := by
  obtain ⟨adopted, same, records⟩ := controller.applyPrelude_records shared decision input
  rw [records, ← same]
  cases event : input.event with
  | manualStartRequested requestedS =>
    by_cases requests : requestSlot ∈ decision.actions
    · obtain ⟨requested, rfl⟩ :=
        Option.isSome_iff_exists.mp (StateMachine.duration_of_requestSlot decided requests event)
      simp [recordPendingManual, recordedManual, event, requests]
    · simp [recordPendingManual, recordedManual, event, requests]
  | _ => simp [recordPendingManual, recordedManual, event]

/-- A decision starts the request of its RequestSlot, and nothing else. -/
theorem applying_answered (rested : requestSlot ∉ controller.ahead) {decision : Decision}
    {input : TransitionInput} {applier : Applier}
    (decided : StateMachine.decide input = .ok decision)
    (offering : applier = .slot → ∃ pendingManual,
      controller.slotTask = some (.offering pendingManual)) :
    Answered controller slots { controller.applyPrelude shared decision input with
      locked := some (.applying decision input decision.actions applier) } slots := by
  have frame := controller.applyPrelude_frame shared decision input
  have recorded := controller.applyPrelude_pendingManual shared decided
  generalize controller.applyPrelude shared decision input = adopted at frame recorded
  have orderly : Orderly { adopted with
      locked := some (.applying decision input decision.actions applier) } := by
    refine ⟨StateMachine.Row.actions_of_requestSlot (StateMachine.decide_row decided), ?_⟩
    intro rest applies
    obtain ⟨-, slot⟩ := Prod.mk.inj (Option.some.inj applies)
    exact frame.slotTask ▸ offering slot
  by_cases requests : requestSlot ∈ decision.actions
  · refine ⟨frame.zoneId, fun _ => orderly, .of_setZone
      (.requestSlot controller.zoneId (recordedManual decision input)) fun state _ held => ?_⟩
    have requested : (state.zones controller.zoneId).ensureSlotRequest
          (recordedManual decision input) =
        bookkeeping { adopted with
          locked := some (.applying decision input decision.actions applier) } := by
      rw [held, bookkeeping_of_rested rested]
      simp only [ZoneSlot.ensureSlotRequest, bookkeeping, ahead, requests, if_true,
        ensureSlotRequest, frame.runtimeEligible, frame.slotTask, recorded]
      cases controller.runtimeEligible <;> cases controller.slotTask <;> rfl
    rw [← requested]
    rfl
  · refine .of_manages frame.zoneId (fun _ => orderly) ?_ (.refl slots)
    have unrecorded : recordedManual decision input = none := by
      unfold recordedManual
      split
      · rw [if_neg requests]
      · rfl
    rw [bookkeeping_of_rested rested, bookkeeping_of_rested (by simpa [ahead] using requests)]
    simp [frame.runtimeEligible, frame.slotTask, recorded, unrecorded]

/-- A decision with what it applies, up to its first action. -/
theorem decideAndApply_answered (rested : requestSlot ∉ controller.ahead)
    (shared : SharedState) (event : ControllerEvent) {applier : Applier} (sessionId : String)
    (offering : applier = .slot → ∃ pendingManual,
      controller.slotTask = some (.offering pendingManual)) :
    Answered controller slots (controller.decideAndApply shared event applier sessionId) slots := by
  have rolled := controller.rollDaily_keepsSlot shared.calendar shared.now
  have offers : applier = .slot → ∃ pendingManual,
      (controller.rollDaily shared.calendar shared.now).slotTask =
        some (.offering pendingManual) := by
    rw [rolled.slotTask]
    exact offering
  rcases controller.decideAndApply_cases shared event applier sessionId with
    ⟨raised, applied⟩ | ⟨decision, -, ⟨decided, -⟩, applied⟩
  · rw [applied]
    exact (rolled.answered rested).trans (afterApply_answered (rolled.rested rested) offers raised)
  · rw [applied]
    exact (rolled.answered rested).trans (applying_answered (rolled.rested rested) decided offers)

/-! ## The pieces of the tasks -/

theorem handlePersistFailure_keepsSlot (controller : ZoneController) :
    KeepsSlot controller controller.handlePersistFailure := by
  unfold handlePersistFailure
  simp only
  split <;> exact ⟨rfl, rfl, rfl, rfl, .inl rfl⟩

theorem beginOffOperation_keepsSlot (controller : ZoneController)
    (requestedFor : Option PulseId) :
    KeepsSlot controller (controller.beginOffOperation requestedFor) := by
  unfold beginOffOperation
  split <;> exact ⟨rfl, rfl, rfl, rfl, .inl rfl⟩

theorem ensureOffOperation_keepsSlot (controller : ZoneController)
    (requestedFor : Option PulseId) (compensating : Bool) :
    KeepsSlot controller (controller.ensureOffOperation requestedFor compensating) := by
  have begun := beginOffOperation_keepsSlot { controller with offRequested := false } requestedFor
  exact ⟨begun.zoneId, begun.runtimeEligible, begun.pendingManual, begun.slotTask,
    begun.application⟩

theorem commitOnCompensationNow_pendingManual (controller : ZoneController) (shared : SharedState)
    (configurationChanged serviceFailed : Bool) :
    (controller.commitOnCompensationNow shared configurationChanged serviceFailed).1.pendingManual =
      controller.pendingManual := by
  unfold commitOnCompensationNow
  cases held : controller.session with
  | none => rfl
  | some session =>
    have rolled : ((controller.markEstimated session).rollDaily shared.calendar
        shared.now).pendingManual = controller.pendingManual := by
      rw [(rollDaily_keepsSlot _ _ _).pendingManual]
      unfold markEstimated
      split <;> rfl
    simp only
    split
    · exact rolled
    · split
      · exact rolled
      · simp only [adoptNow]
        split <;> exact rolled

theorem compensate_keepsSlot (controller : ZoneController) (shared : SharedState)
    (configurationChanged serviceFailed : Bool) :
    KeepsSlot controller (controller.compensate shared configurationChanged serviceFailed) := by
  have committed := (controller.commitOnCompensationNow_spec shared configurationChanged
    serviceFailed).1.keepsSlot (controller.commitOnCompensationNow_pendingManual shared
      configurationChanged serviceFailed)
  simp only [compensate]
  split
  · exact committed.trans ⟨rfl, rfl, rfl, rfl, .inl rfl⟩
  · exact committed.trans (ensureOffOperation_keepsSlot _ _ _)

theorem beginQuiescing_answered (rested : requestSlot ∉ controller.ahead) :
    Answered controller slots controller.beginQuiescing slots := by
  refine ⟨rfl, fun orderly => ⟨orderly.alone, orderly.offering⟩,
    .of_setZone (.beginQuiescing controller.zoneId) fun state _ held => ?_⟩
  have quiesced : { state.zones controller.zoneId with
      runtimeEligible := false, pendingManual := none } =
      controller.beginQuiescing.bookkeeping := by
    have still : requestSlot ∉ controller.beginQuiescing.ahead := rested
    rw [held, bookkeeping_of_rested rested, bookkeeping_of_rested still]
    rfl
  rw [← quiesced]
  rfl

theorem updateRuntimeOwnership_answered (rested : requestSlot ∉ controller.ahead)
    (zoneHistoryId : String) (lifecycle : RuntimeLifecycle) :
    Answered controller slots (controller.updateRuntimeOwnership zoneHistoryId lifecycle)
      slots := by
  refine ⟨rfl, fun orderly => ⟨orderly.alone, orderly.offering⟩, .of_setZone
    (.updateOwnership controller.zoneId (decide (lifecycle = .active))) fun state _ held => ?_⟩
  have updated : { state.zones controller.zoneId with
      runtimeEligible := decide (lifecycle = .active) &&
        !(state.zones controller.zoneId).detaching } =
      (controller.updateRuntimeOwnership zoneHistoryId lifecycle).bookkeeping := by
    have still : requestSlot ∉
        (controller.updateRuntimeOwnership zoneHistoryId lifecycle).ahead := rested
    rw [held, bookkeeping_of_rested rested, bookkeeping_of_rested still]
    simp [updateRuntimeOwnership]
  rw [← updated]
  rfl

theorem quiesceIf_answered (rested : requestSlot ∉ controller.ahead) (required : Bool) :
    Answered controller slots (controller.quiesceIf required) slots := by
  unfold quiesceIf
  split
  · exact beginQuiescing_answered rested
  · exact (KeepsSlot.refl controller).answered rested

theorem quiesceIf_rested (rested : requestSlot ∉ controller.ahead) (required : Bool) :
    requestSlot ∉ (controller.quiesceIf required).ahead := by
  unfold quiesceIf
  split <;> exact rested

theorem recheckOn_answered {marker : InFlightOn} {authority : OnAuthority} {serviceFailed : Bool}
    {continued : ZoneController → ZoneController} (rested : requestSlot ∉ controller.ahead)
    (goesOn : Answered controller slots (continued controller) slots) :
    Answered controller slots
      (controller.recheckOn shared marker authority serviceFailed continued) slots := by
  rcases controller.recheckOn_cases shared marker authority serviceFailed continued with
    same | ⟨required, changed, same⟩
  · rw [same]
    exact goesOn
  · rw [same]
    exact (quiesceIf_answered rested required).trans
      ((compensate_keepsSlot _ shared changed serviceFailed).answered
        (quiesceIf_rested rested required))

theorem refusal_answered (rested : requestSlot ∉ controller.ahead) (required : Bool)
    (event : ControllerEvent) :
    Answered controller slots
      ((controller.quiesceIf required).decideAndApply shared event .refusal sessionId) slots :=
  (quiesceIf_answered rested required).trans
    (decideAndApply_answered (quiesceIf_rested rested required) shared event sessionId (by simp))

theorem gate_answered (rested : requestSlot ∉ controller.ahead) (authority : OnAuthority) :
    Answered controller slots (controller.gate shared authority sessionId) slots := by
  have moved : ∀ {after : ZoneController}, KeepsSlot controller after →
      Answered controller slots after slots := fun keeps => keeps.answered rested
  unfold gate
  split
  · exact moved ⟨rfl, rfl, rfl, rfl, .inl rfl⟩
  · split
    · exact moved ⟨rfl, rfl, rfl, rfl, .inl rfl⟩
    · simp only
      split
      · have refusing : KeepsSlot controller { controller with sessionTask := some .refusing } :=
          ⟨rfl, rfl, rfl, rfl, .inl rfl⟩
        exact (moved refusing).trans
          (decideAndApply_answered (refusing.rested rested) shared _ sessionId (by simp))
      · split
        · exact moved ⟨rfl, rfl, rfl, rfl, .inl rfl⟩
        · -- A refusal for the loss of the authority quiesces before it is decided.
          have refreshed : KeepsSlot controller { controller with
              sessionTask := some .refusing, assessment := authority.reading } :=
            ⟨rfl, rfl, rfl, rfl, .inl rfl⟩
          exact (moved refreshed).trans (refusal_answered (refreshed.rested rested) _ _)

theorem anchor_answered (rested : requestSlot ∉ controller.ahead) (saved : Bool)
    (anchored : controller.anchor shared saved = (next, shared')) :
    Answered controller shared.slots next shared'.slots := by
  have rolled := controller.rollDaily_keepsSlot shared.calendar shared.now
  have held : ∀ holder : Option LockHolder, application
        { controller.rollDaily shared.calendar shared.now with locked := holder } = none →
      KeepsSlot controller
        { controller.rollDaily shared.calendar shared.now with locked := holder } :=
    fun _ ended => rolled.trans ⟨rfl, rfl, rfl, rfl, .inr ended⟩
  simp only [anchor] at anchored
  split at anchored <;> obtain ⟨rfl, rfl⟩ := Prod.mk.inj anchored
  · exact (held (some (.rechecking false)) rfl).answered rested
  · exact (((held none rfl).trans (handlePersistFailure_keepsSlot _)).trans
      (compensate_keepsSlot _ _ _ _)).answered rested
  · have finished : KeepsSlot controller (finishOn
        { controller.rollDaily shared.calendar shared.now with locked := none } none) :=
      (held none rfl).trans ⟨rfl, rfl, rfl, rfl, .inr rfl⟩
    exact finished.answered rested

/-! ## Actions -/

/-- Every action but RequestSlot leaves the slot part alone. -/
theorem applyAction_keepsSlot {action : Action} (saved : Bool) (other : action ≠ requestSlot) :
    KeepsSlot controller (controller.applyAction shared action saved).1.1 := by
  cases action with
  | requestSlot => exact absurd rfl other
  | persistState tag =>
    have rolled := controller.rollDaily_keepsSlot shared.calendar shared.now
    simp only [applyAction]
    split <;> exact rolled
  | _ => exact ⟨rfl, rfl, rfl, rfl, .inl rfl⟩

theorem bookkeeping_congr (zone : next.slotTask = controller.slotTask)
    (eligible : next.runtimeEligible = controller.runtimeEligible)
    (pendingManual : next.pendingManual = controller.pendingManual)
    (ahead : requestSlot ∈ next.ahead ↔ requestSlot ∈ controller.ahead) :
    next.bookkeeping = controller.bookkeeping := by
  simp only [bookkeeping, ensureSlotRequest_slotTask, ahead, zone, eligible, pendingManual]

/-- The operations of one action of an application. -/
theorem applyAction_manages {action : Action} (saved : Bool) (other : action ≠ releaseSlot) :
    shared.slots.Manages (controller.applyAction shared action saved).1.2.slots := by
  cases action with
  | releaseSlot => exact absurd rfl other
  | persistState tag =>
    simp only [applyAction]
    split <;> exact .refl _
  | addBlocker reason => exact shared.addBlocker_manages _ saved
  | removeBlocker reason => exact shared.removeBlocker_manages _ saved
  | _ => exact .refl _

theorem applyAction_answered (rested : requestSlot ∉ controller.ahead) {action : Action}
    (saved : Bool) (other : action ≠ requestSlot) :
    Answered controller shared.slots (controller.applyAction shared action saved).1.1
      (controller.applyAction shared action saved).1.2.slots := by
  by_cases releases : action = releaseSlot
  · subst releases
    have settled : controller.bookkeeping.withdrawing = false := rfl
    exact ⟨rfl, id, .releaseSlot settled⟩
  · have keeps := @applyAction_keepsSlot controller shared action saved other
    exact .of_manages keeps.zoneId (keeps.orderly rested) (keeps.bookkeeping rested)
      (applyAction_manages saved releases)

/-- RequestSlot was answered at its decision; the task starts now. -/
theorem requestSlot_answered {decision : Decision} {input : TransitionInput} {applier : Applier}
    (locked : controller.locked = some (.applying decision input [requestSlot] applier)) :
    Answered controller slots { controller.ensureSlotRequest with
      locked := some (.applying decision input [] applier) } slots := by
  have kept : controller.ensureSlotRequest.zoneId = controller.zoneId ∧
      controller.ensureSlotRequest.runtimeEligible = controller.runtimeEligible ∧
      controller.ensureSlotRequest.pendingManual = controller.pendingManual := by
    unfold ensureSlotRequest
    split <;> exact ⟨rfl, rfl, rfl⟩
  refine .of_manages kept.1 (fun orderly => ⟨by simp [ahead], fun rest applies => ?_⟩) ?_
    (.refl slots)
  · obtain ⟨-, slot⟩ := Prod.mk.inj (Option.some.inj applies)
    obtain ⟨pendingManual, task⟩ :=
      orderly.offering [requestSlot] (by simp [application, locked, slot])
    refine ⟨pendingManual, ?_⟩
    show controller.ensureSlotRequest.slotTask = _
    rw [ensureSlotRequest_slotTask, task]
    split <;> rfl
  · simp [bookkeeping, ahead, locked, kept.2.1, kept.2.2]

theorem continued_answered (rested : requestSlot ∉ controller.ahead)
    (keeps : KeepsSlot controller next) {decision : Decision} {input : TransitionInput}
    {rest : List Action} {applier : Applier} (later : requestSlot ∉ rest)
    (offering : applier = .slot → ∃ pendingManual,
      controller.slotTask = some (.offering pendingManual)) :
    Answered controller slots { next with
      locked := some (.applying decision input rest applier) } slots := by
  have orderly : Orderly { next with locked := some (.applying decision input rest applier) } := by
    refine ⟨fun waits => absurd waits later, fun other applies => ?_⟩
    obtain ⟨-, slot⟩ := Prod.mk.inj (Option.some.inj applies)
    exact keeps.slotTask ▸ offering slot
  refine .of_manages keeps.zoneId (fun _ => orderly) ?_ (.refl slots)
  rw [bookkeeping_of_rested rested, bookkeeping_of_rested (by simpa [ahead] using later)]
  simp [keeps.slotTask, keeps.runtimeEligible, keeps.pendingManual]

/-- The next action of an application, or its end. -/
theorem act_answered (orderly : controller.Orderly) {saved : Bool} {decision : Decision}
    {input : TransitionInput} {rest : List Action} {applier : Applier}
    (locked : controller.locked = some (.applying decision input rest applier)) :
    Answered controller shared.slots
      (controller.act shared saved decision input applier rest).1
      (controller.act shared saved decision input applier rest).2.slots := by
  have ahead : controller.ahead = rest := by simp [ahead, locked]
  have offering : applier = .slot → ∃ pendingManual,
      controller.slotTask = some (.offering pendingManual) := fun slot =>
    orderly.offering rest (by simp [application, locked, slot])
  cases rest with
  | nil =>
    have finished : KeepsSlot controller controller.applyFinish := by
      unfold applyFinish
      split
      · exact ⟨rfl, rfl, rfl, rfl, .inl rfl⟩
      · exact .refl controller
    have rested : requestSlot ∉ controller.ahead := by simp [ahead]
    exact (finished.answered rested).trans (afterApply_answered (finished.rested rested)
      (by rwa [finished.slotTask]) false)
  | cons action rest =>
    by_cases requests : action = requestSlot
    · subst requests
      obtain rfl : rest = [] := by simpa [ahead] using orderly.alone (by simp [ahead])
      exact requestSlot_answered locked
    · have rested : requestSlot ∉ controller.ahead := fun waits =>
        requests (by simpa [ahead] using congrArg List.head? (orderly.alone waits))
      have acted := @applyAction_answered controller shared rested action saved requests
      have keeps := @applyAction_keepsSlot controller shared action saved requests
      simp only [act]
      generalize controller.applyAction shared action saved = result at acted keeps ⊢
      obtain ⟨⟨acting, shared'⟩, raised⟩ := result
      have offers : applier = .slot → ∃ pendingManual,
          acting.slotTask = some (.offering pendingManual) := by
        rw [keeps.slotTask]
        exact offering
      cases raised with
      | none =>
        have noted : KeepsSlot acting (acting.noteRequest action input) := by
          cases action <;> exact ⟨rfl, rfl, rfl, rfl, .inl rfl⟩
        have later : requestSlot ∉ rest := fun waits => rested (by simp [ahead, waits])
        exact acted.trans (continued_answered (keeps.rested rested) noted later offers)
      | some err =>
        cases err with
        | storeWriteVerification _ =>
          have failed := acting.handlePersistFailure_keepsSlot
          exact acted.trans ((failed.answered (keeps.rested rested)).trans (afterApply_answered
            (failed.rested (keeps.rested rested)) (by rwa [failed.slotTask]) false))
        | _ => exact acted.trans (afterApply_answered (keeps.rested rested) offers true)

/-! ## The steps of the tasks -/

/-- No other coroutine runs between a decision and its RequestSlot, and a slot task that goes on
living is woken only by a future that was cancelled. -/
structure Timely (controller : ZoneController) (shared : SharedState) (label : ControllerLabel) :
    Prop where
  atOnce : requestSlot ∈ controller.ahead → ∃ saved, label = .act saved
  woken : label = .slotCancelled → ∃ request ∈ shared.slots.cancelled,
    controller.slotTask = some (.waiting request)

/-- A slot task that offers nothing yet moves on, and leaves the lock to its holder. -/
theorem Answered.of_task (rested : requestSlot ∉ controller.ahead)
    (zoneId : next.zoneId = controller.zoneId) (locked : next.locked = controller.locked)
    (waits : ∀ pendingManual, controller.slotTask ≠ some (.offering pendingManual))
    (moves : ZoneSlot.Moves controller.zoneId controller.bookkeeping slots
      { runtimeEligible := next.runtimeEligible
        pendingManual := next.pendingManual
        slotTask := next.slotTask.map SlotTask.position } slots') :
    Answered controller slots next slots' := by
  have still : requestSlot ∉ next.ahead := by rwa [ahead_congr locked]
  refine ⟨zoneId, fun orderly => ⟨?_, fun rest applies => ?_⟩,
    (bookkeeping_of_rested still).symm ▸ moves⟩
  · rw [ahead_congr locked]
    exact orderly.alone
  · obtain ⟨pendingManual, task⟩ :=
      orderly.offering rest (by simpa only [application, locked] using applies)
    exact absurd task (waits pendingManual)

theorem slotStep_answered (timely : controller.Timely shared label)
    (rested : requestSlot ∉ controller.ahead)
    (stepped : controller.slotStep shared label sessionId = some (next, shared')) :
    Answered controller shared.slots next shared'.slots := by
  have held := bookkeeping_of_rested rested
  unfold slotStep at stepped
  split at stepped
  · rename_i task
    generalize requested : shared.slots.request controller.zoneId = result at stepped
    obtain ⟨slots, request⟩ := result
    obtain ⟨rfl, rfl⟩ := Prod.mk.inj (Option.some.inj stepped)
    refine .of_task rested rfl rfl (by simp [task]) (.of_operate (.startTask controller.zoneId)
      (.request controller.zoneId) (fun state run zone => ?_) ?_)
    · simp [SlotClaims.step, run, zone, held, requested, task, SlotTask.position]
    · simp [SlotRun.step, SlotRun.locked, requested]
  · rename_i request task
    have waits : controller.bookkeeping.slotTask = some (.waiting request) := by
      simp [held, task, SlotTask.position]
    split at stepped
    · rename_i granted
      have resumed := @ZoneSlot.Moves.resume controller.zoneId _ _ request waits granted
      split at stepped
      · rename_i eligible
        obtain ⟨rfl, rfl⟩ := Prod.mk.inj (Option.some.inj stepped)
        rw [if_pos (by simpa [held] using eligible), held] at resumed
        refine .of_task rested rfl rfl (by simp [task]) ?_
        rw [held]
        exact resumed
      · rename_i ineligible
        obtain ⟨rfl, rfl⟩ := Prod.mk.inj (Option.some.inj stepped)
        rw [if_neg (by simpa [held] using ineligible), held] at resumed
        refine .of_task rested rfl rfl (by simp [task]) ?_
        rw [held]
        exact resumed
    · cases stepped
  · split at stepped
    · obtain ⟨rfl, rfl⟩ := Prod.mk.inj (Option.some.inj stepped)
      exact decideAndApply_answered rested shared _ sessionId fun _ => ⟨_, by assumption⟩
    · cases stepped
  · rename_i request task
    obtain ⟨rfl, rfl⟩ := Prod.mk.inj (Option.some.inj stepped)
    obtain ⟨waited, gone, same⟩ := timely.woken rfl
    obtain rfl : request = waited := by simpa [task] using same
    have waits : controller.bookkeeping.slotTask = some (.waiting request) := by
      simp [held, task, SlotTask.position]
    have withdrawn := @ZoneSlot.Moves.cancelled controller.zoneId _ _ request waits gone
    refine .of_task rested rfl rfl (by simp [task]) ?_
    rw [held] at withdrawn ⊢
    exact withdrawn
  · cases stepped

theorem offStep_answered (rested : requestSlot ∉ controller.ahead)
    (stepped : controller.offStep shared label sessionId = some next) :
    Answered controller slots next slots := by
  have phased : ∀ operation phase,
      Answered controller slots (controller.setOffPhase operation phase) slots :=
    fun operation phase => (controller.setOffPhase_keepsSlot operation phase).answered rested
  cases label with
  | offServiceReturned operation reading =>
    simp only [offStep] at stepped
    split at stepped
    · obtain rfl := Option.some.inj stepped
      have returned : ∀ left, KeepsSlot controller
          (controller.offServiceReturned shared.now operation left reading) := by
        intro left
        unfold offServiceReturned
        simp only
        split <;> exact ⟨rfl, rfl, rfl, rfl, .inl rfl⟩
      exact (returned _).answered rested
    · cases stepped
  | offProofEnded operation =>
    simp only [offStep] at stepped
    split at stepped
    · obtain rfl := Option.some.inj stepped
      unfold offProofEnded
      split <;> exact phased _ _
    · cases stepped
  | offAborted operation =>
    simp only [offStep] at stepped
    split at stepped
    · obtain rfl := Option.some.inj stepped
      exact phased _ _
    · obtain rfl := Option.some.inj stepped
      exact phased _ _
    · cases stepped
  | offDispatch operation =>
    simp only [offStep] at stepped
    split at stepped
    · split at stepped
      · obtain rfl := Option.some.inj stepped
        exact (phased _ _).trans (decideAndApply_answered
          ((controller.setOffPhase_keepsSlot _ _).rested rested) shared _ sessionId (by simp))
      · obtain rfl := Option.some.inj stepped
        exact decideAndApply_answered rested shared _ sessionId (by simp)
      · cases stepped
    · cases stepped
  | _ => cases stepped

theorem actuatorStep_answered (rested : requestSlot ∉ controller.ahead)
    (stepped : controller.actuatorStep shared label sessionId = some (next, shared')) :
    Answered controller shared.slots next shared'.slots := by
  unfold actuatorStep at stepped
  split at stepped
  · obtain ⟨rfl, rfl⟩ := Prod.mk.inj (Option.some.inj stepped)
    have observed : ∀ assessment terminalOn ownContext, KeepsSlot controller
        (controller.onActuatorEvent shared.now assessment terminalOn ownContext) :=
      fun _ _ _ => ⟨rfl, rfl, rfl, rfl, .inl rfl⟩
    exact (observed _ _ _).answered rested
  · split at stepped
    · cases stepped
    · rename_i change rest _
      have taken : KeepsSlot controller { controller with actuatorChanges := rest } :=
        ⟨rfl, rfl, rfl, rfl, .inl rfl⟩
      simp only at stepped
      split at stepped <;> obtain ⟨rfl, rfl⟩ := Prod.mk.inj (Option.some.inj stepped)
      · exact taken.answered rested
      · exact (taken.answered rested).trans
          (decideAndApply_answered (taken.rested rested) shared _ sessionId (by simp))
      · have proving : ∀ holder : LockHolder, application { controller with
            actuatorChanges := rest, locked := some holder } = none →
            KeepsSlot controller { controller with
              actuatorChanges := rest, locked := some holder } :=
          fun _ ended => ⟨rfl, rfl, rfl, rfl, .inr ended⟩
        exact (proving (.provingOff change _) rfl).answered rested
  · rename_i saved change active held
    have released : KeepsSlot controller { controller with locked := none } :=
      ⟨rfl, rfl, rfl, rfl, .inr rfl⟩
    have removed := shared.removeBlocker_manages
      (controller.safetyRecordId, .actuatorNotProvenOff) saved
    have lifted : Answered controller shared.slots { controller with locked := none }
        (shared.removeBlocker (controller.safetyRecordId, .actuatorNotProvenOff) saved).1.slots :=
      .of_manages rfl (released.orderly rested) (released.bookkeeping rested) removed
    generalize shared.removeBlocker (controller.safetyRecordId, .actuatorNotProvenOff) saved
      = result at lifted stepped
    obtain ⟨removing, raised⟩ := result
    cases raised with
    | some err =>
      obtain ⟨rfl, rfl⟩ := Prod.mk.inj (Option.some.inj stepped)
      exact lifted
    | none =>
      simp only at stepped
      split at stepped <;> obtain ⟨rfl, rfl⟩ := Prod.mk.inj (Option.some.inj stepped)
      · exact lifted.trans
          (decideAndApply_answered (released.rested rested) _ _ sessionId (by simp))
      · exact lifted
  · cases stepped

theorem sessionStep_answered (rested : requestSlot ∉ controller.ahead)
    (stepped : controller.sessionStep shared label sessionId = some (next, shared')) :
    Answered controller shared.slots next shared'.slots := by
  have moved : ∀ {after : ZoneController}, KeepsSlot controller after →
      Answered controller shared.slots after shared.slots := fun keeps => keeps.answered rested
  unfold sessionStep at stepped
  split at stepped
  · obtain ⟨woken, step, same⟩ := Option.map_eq_some_iff.mp stepped
    obtain ⟨rfl, rfl⟩ := Prod.mk.inj same
    unfold wake at step
    split at step
    · obtain rfl := Option.some.inj step
      exact moved ⟨rfl, rfl, rfl, rfl, .inl rfl⟩
    · split at step
      · obtain rfl := Option.some.inj step
        exact moved (ensureOffOperation_keepsSlot _ _ _)
      · split at step
        · obtain rfl := Option.some.inj step
          exact moved ⟨rfl, rfl, rfl, rfl, .inl rfl⟩
        · cases step
  · obtain ⟨rfl, rfl⟩ := Prod.mk.inj (Option.some.inj stepped)
    exact gate_answered rested _
  · rename_i raised authority marker _ _
    obtain ⟨rfl, rfl⟩ := Prod.mk.inj (Option.some.inj stepped)
    have recorded : KeepsSlot controller (controller.recordPossibleCommand marker) :=
      ⟨rfl, rfl, rfl, rfl, .inl rfl⟩
    have entering : ∀ after : ZoneController,
        KeepsSlot after { after with sessionTask := some .reentering } :=
      fun _ => ⟨rfl, rfl, rfl, rfl, .inl rfl⟩
    exact (moved recorded).trans (recheckOn_answered (recorded.rested rested)
      ((entering _).answered (recorded.rested rested)))
  · obtain ⟨rfl, rfl⟩ := Prod.mk.inj (Option.some.inj stepped)
    have persisting : KeepsSlot controller { controller with
        locked := some .persistingCommand, sessionTask := some .anchoring } :=
      ⟨rfl, rfl, rfl, rfl, .inr rfl⟩
    exact recheckOn_answered rested (persisting.answered rested)
  · rename_i saved _ _
    exact anchor_answered rested saved (Option.some.inj stepped)
  · obtain ⟨rfl, rfl⟩ := Prod.mk.inj (Option.some.inj stepped)
    have released : KeepsSlot controller { controller with locked := none } :=
      ⟨rfl, rfl, rfl, rfl, .inr rfl⟩
    refine (moved released).trans (recheckOn_answered (released.rested rested) ?_)
    unfold afterRecheck
    split
    · exact decideAndApply_answered (released.rested rested) shared _ sessionId (by simp)
    · have finished : ∀ after : ZoneController,
          KeepsSlot after (after.finishOn (some .looping)) :=
        fun _ => ⟨rfl, rfl, rfl, rfl, .inl rfl⟩
      exact (finished _).answered (released.rested rested)
  · split at stepped
    · obtain ⟨rfl, rfl⟩ := Prod.mk.inj (Option.some.inj stepped)
      exact moved ⟨rfl, rfl, rfl, rfl, .inl rfl⟩
    · cases stepped
  · cases stepped

theorem step_answered (orderly : controller.Orderly) (timely : controller.Timely shared label)
    (stepped : controller.step shared label sessionId = some (next, shared')) :
    Answered controller shared.slots next shared'.slots := by
  -- A RequestSlot that is ahead is executed at once.
  have rested : (∀ saved, label ≠ .act saved) → requestSlot ∉ controller.ahead := by
    intro other waits
    obtain ⟨saved, same⟩ := timely.atOnce waits
    exact other saved same
  cases label with
  | act saved =>
    simp only [step] at stepped
    split at stepped
    · rename_i decision input rest applier locked
      have acted := @act_answered controller shared orderly saved decision input rest applier locked
      rwa [show controller.act shared saved decision input applier rest = (next, shared') from
        Option.some.inj stepped] at acted
    · cases stepped
  | dispatch event =>
    simp only [step] at stepped
    split at stepped
    · obtain ⟨rfl, rfl⟩ := Prod.mk.inj (Option.some.inj stepped)
      exact decideAndApply_answered (rested (by simp)) shared _ sessionId (by simp)
    · cases stepped
  | moisture observation =>
    simp only [step] at stepped
    have observed : KeepsSlot controller { controller with observation := observation } :=
      ⟨rfl, rfl, rfl, rfl, .inl rfl⟩
    have rested := rested (by simp)
    split at stepped
    · split at stepped <;> obtain ⟨rfl, rfl⟩ := Prod.mk.inj (Option.some.inj stepped)
      · exact (observed.answered rested).trans
          (decideAndApply_answered (observed.rested rested) shared _ sessionId (by simp))
      · exact observed.answered rested
    · cases stepped
  | setEnabled enabled =>
    simp only [step] at stepped
    have toggled : KeepsSlot controller { controller with enabled := enabled } :=
      ⟨rfl, rfl, rfl, rfl, .inl rfl⟩
    have rested := rested (by simp)
    split at stepped
    · obtain ⟨rfl, rfl⟩ := Prod.mk.inj (Option.some.inj stepped)
      exact (toggled.answered rested).trans
        (decideAndApply_answered (toggled.rested rested) shared _ sessionId (by simp))
    · cases stepped
  | actuatorEvent | actuatorChange | provingOff =>
    simp only [step] at stepped
    exact actuatorStep_answered (rested (by simp)) stepped
  | slotRequest | slotResume | slotOffer | slotCancelled =>
    simp only [step] at stepped
    exact slotStep_answered timely (rested (by simp)) stepped
  | wake | gate | serviceReturned | reenter | anchor | recheck | offJoined =>
    simp only [step] at stepped
    exact sessionStep_answered (rested (by simp)) stepped
  | offServiceReturned | offProofEnded | offAborted | offDispatch =>
    simp only [step] at stepped
    obtain ⟨moved, moves, same⟩ := Option.map_eq_some_iff.mp stepped
    obtain ⟨rfl, rfl⟩ := Prod.mk.inj same
    exact offStep_answered (rested (by simp)) moves
  | ensureOff =>
    obtain ⟨rfl, rfl⟩ := Prod.mk.inj (Option.some.inj stepped)
    exact (beginOffOperation_keepsSlot _ _).answered (rested (by simp))
  | quiesce =>
    obtain ⟨rfl, rfl⟩ := Prod.mk.inj (Option.some.inj stepped)
    exact beginQuiescing_answered (rested (by simp))
  | updateOwnership zoneHistoryId lifecycle =>
    obtain ⟨rfl, rfl⟩ := Prod.mk.inj (Option.some.inj stepped)
    exact updateRuntimeOwnership_answered (rested (by simp)) zoneHistoryId lifecycle

end ZoneController

namespace SlotClaims

/-! ## The manager in the bookkeeping -/

variable {state next : SlotClaims}

/-- A bookkeeping step is at most one operation of the manager. -/
def OperatesOnce (state next : SlotClaims) : Prop :=
  next.run = state.run ∨ ∃ operation, state.run.step operation = some next.run

theorem OperatesOnce.of_operate {operation : SlotLabel} {zoneId : String} {zone : ZoneSlot}
    (operates : state.operate operation zoneId zone = some next) : OperatesOnce state next := by
  obtain ⟨run, moved, rfl⟩ := operate_eq_some operates
  exact .inr ⟨operation, moved⟩

theorem OperatesOnce.of_manage {operation : SlotLabel}
    (manages : state.manage operation = some next) : OperatesOnce state next := by
  obtain ⟨run, moved, rfl⟩ := manage_eq_some manages
  exact .inr ⟨operation, moved⟩

theorem operatesOnce_of_step {label : ClaimLabel} (stepped : state.step label = some next) :
    OperatesOnce state next := by
  cases label with
  | requestSlot | beginQuiescing | updateOwnership =>
    obtain rfl := Option.some.inj stepped
    exact .inl rfl
  | releaseSlot => exact .of_operate stepped
  | withdrawSlot | startTask | releaseTask | withdrawTask =>
    simp only [step] at stepped
    split at stepped
    · exact .of_operate stepped
    · cases stepped
  | resumeTask | wakeCancelled =>
    simp only [step] at stepped
    split at stepped
    · split at stepped
      · obtain rfl := Option.some.inj stepped
        exact .inl rfl
      · cases stepped
    · cases stepped
  | finishTask =>
    simp only [step] at stepped
    split at stepped
    · obtain rfl := Option.some.inj stepped
      exact .inl rfl
    · cases stepped
  | detach =>
    simp only [step] at stepped
    split at stepped
    · exact .of_operate stepped
    · obtain rfl := Option.some.inj stepped
      exact .inl rfl
  | closeAdmissionNow =>
    simp only [step] at stepped
    obtain ⟨closed, manages, rfl⟩ := Option.map_eq_some_iff.mp stepped
    obtain ⟨run, moved, rfl⟩ := manage_eq_some manages
    exact .inr ⟨.closeAdmissionNow, moved⟩
  | entryCancelRequest | addBlocker | removeBlocker | persisted | enableGrants | disableGrants
  | setReconciliation => exact .of_manage stepped

/-- The manager keeps its rules in every run of the bookkeeping. -/
theorem safe_of_run {start finish : SlotClaims} (safe : start.run.Safe)
    (reached : system.Run (fun _ _ _ => True) start finish) : finish.run.Safe := by
  have kept : ∀ (state : SlotClaims) label next, state.run.Safe →
      system.step state label = some next → True → next.run.Safe := by
    intro state label next safe stepped _
    rcases operatesOnce_of_step stepped with same | ⟨operation, moved⟩
    · rwa [same]
    · exact safe.step moved
  exact @LabelledSystem.Run.preserves _ _ _ _ _ _ (fun state : SlotClaims => state.run.Safe)
    reached safe kept

end SlotClaims

namespace Entry

/-! ## Runs of an entry -/

variable {κ : Type} [DecidableEq κ] {entry next : Entry κ} {label : EntryLabel κ}
  {state : SlotClaims}

/-- The bookkeeping has the manager of the entry and the slot part of each controller; no two
controllers serve one zone. -/
structure Tracked (entry : Entry κ) (state : SlotClaims) : Prop where
  run : state.run = { slots := entry.shared.slots }
  zones : ∀ key, state.zones (entry.controllers key).zoneId = (entry.controllers key).bookkeeping
  orderly : ∀ key, (entry.controllers key).Orderly
  distinct : Function.Injective fun key => (entry.controllers key).zoneId

/-- The step of a controller comes in time. -/
def Timely (entry : Entry κ) (label : EntryLabel κ) : Prop :=
  ∀ key label' sessionId, label = .controller key label' sessionId →
    (entry.controllers key).Timely entry.shared label'

theorem Tracked.controller (tracked : entry.Tracked state) {key : κ}
    {controller : ZoneController} {shared : SharedState}
    (answered : (entry.controllers key).Answered entry.shared.slots controller shared.slots) :
    ∃ state', SlotClaims.system.Run (fun _ _ _ => True) state state' ∧
      Tracked ⟨Function.update entry.controllers key controller, shared⟩ state' := by
  obtain ⟨state', ran, run, zones⟩ := answered.moves state tracked.run (tracked.zones key)
  have sameZone : ∀ other, (Function.update entry.controllers key controller other).zoneId =
      (entry.controllers other).zoneId := by
    intro other
    by_cases same : other = key
    · subst same
      simpa using answered.zoneId
    · simp [same]
  refine ⟨state', ran, run, fun other => ?_, fun other => ?_, ?_⟩
  · rw [zones]
    by_cases same : other = key
    · subst same
      simp [answered.zoneId]
    · -- No other controller serves this zone.
      have apart : (entry.controllers other).zoneId ≠ (entry.controllers key).zoneId :=
        fun zone => same (tracked.distinct zone)
      simpa [same, Function.update_of_ne apart] using tracked.zones other
  · by_cases same : other = key
    · subst same
      simpa using answered.orderly (tracked.orderly other)
    · simpa [same] using tracked.orderly other
  · simpa only [sameZone] using tracked.distinct

omit [DecidableEq κ] in
theorem Tracked.admission (tracked : entry.Tracked state) (change : AdmissionChange) :
    ∃ state', SlotClaims.system.Run (fun _ _ _ => True) state state' ∧
      Tracked { entry with shared := { entry.shared with
        slots := change.apply entry.shared.slots } } state' := by
  have managed : ∀ {slots : SlotManager}, entry.shared.slots.Manages slots →
      ∃ state', SlotClaims.system.Run (fun _ _ _ => True) state state' ∧
        Tracked { entry with shared := { entry.shared with slots := slots } } state' := by
    intro slots manages
    obtain ⟨state', ran, run, zones⟩ := manages state tracked.run
    exact ⟨state', ran, run, fun key => by rw [zones]; exact tracked.zones key, tracked.orderly,
      tracked.distinct⟩
  cases change with
  | enableGrants => exact managed (.of_step .enableGrants (fun _ => rfl) rfl)
  | disableGrants => exact managed (.of_step .disableGrants (fun _ => rfl) rfl)
  | setReconciliation barrier =>
    exact managed (.of_step (.setReconciliation barrier) (fun _ => rfl) rfl)
  | cancelRequest zoneId => exact managed (.of_step (.entryCancelRequest zoneId) (fun _ => rfl) rfl)
  | closeAdmission =>
    have closed : state.step .closeAdmissionNow = some { state with
        run := { slots := entry.shared.slots.closeAdmission }
        closed := true } := by
      simp [SlotClaims.step, SlotClaims.manage, tracked.run, SlotRun.step]
    exact ⟨_, .step .closeAdmissionNow .refl closed trivial, rfl, tracked.zones, tracked.orderly,
      tracked.distinct⟩

theorem Tracked.step (tracked : entry.Tracked state) (stepped : entry.step label = some next)
    (timely : entry.Timely label) :
    ∃ state', SlotClaims.system.Run (fun _ _ _ => True) state state' ∧ next.Tracked state' := by
  cases label with
  | controller key label' sessionId =>
    obtain ⟨⟨controller, shared⟩, moved, rfl⟩ := Option.map_eq_some_iff.mp stepped
    exact tracked.controller (ZoneController.step_answered (tracked.orderly key)
      (timely key label' sessionId rfl) moved)
  | tick now =>
    obtain rfl := Option.some.inj stepped
    exact ⟨state, .refl, tracked.run, tracked.zones, tracked.orderly, tracked.distinct⟩
  | admission change =>
    obtain rfl := Option.some.inj stepped
    exact tracked.admission change
  | storeChanged data =>
    simp only [Entry.step] at stepped
    split at stepped
    · obtain rfl := Option.some.inj stepped
      exact ⟨state, .refl, tracked.run, tracked.zones, tracked.orderly, tracked.distinct⟩
    · cases stepped

/-- Every run of an entry whose steps come in time is a run of the slot bookkeeping. -/
theorem refinesSlotClaims_of_run {start finish : Entry κ} (tracked : start.Tracked state)
    (reached : system.Run (fun entry label _ => entry.Timely label) start finish) :
    ∃ state', SlotClaims.system.Run (fun _ _ _ => True) state state' ∧ finish.Tracked state' :=
  reached.simulates (fun _ _ _ _ tracked stepped timely => tracked.step stepped timely) tracked

omit [DecidableEq κ] in
/-- An entry at rest, with one controller for each zone, has a bookkeeping. -/
theorem exists_tracked {entry : Entry κ} (resting : ∀ key, (entry.controllers key).locked = none)
    (distinct : Function.Injective fun key => (entry.controllers key).zoneId) :
    ∃ state, entry.Tracked state := by
  refine ⟨{ run := { slots := entry.shared.slots }
            zones := Function.extend (fun key => (entry.controllers key).zoneId)
              (fun key => (entry.controllers key).bookkeeping) fun _ => {} },
    rfl, fun key => distinct.extend_apply (fun key => (entry.controllers key).bookkeeping)
      (fun _ => {}) key, fun key => ⟨?_, ?_⟩, distinct⟩
  · simp [ZoneController.ahead_of_unlocked (resting key)]
  · simp [ZoneController.application, resting key]

/-- In every run of an entry whose steps come in time the manager keeps its queue, its futures
and its blockers in order. -/
theorem safeSlots_of_run {start finish : Entry κ}
    (resting : ∀ key, (start.controllers key).locked = none)
    (distinct : Function.Injective fun key => (start.controllers key).zoneId)
    (safe : SlotRun.Safe { slots := start.shared.slots })
    (reached : system.Run (fun entry label _ => entry.Timely label) start finish) :
    SlotRun.Safe { slots := finish.shared.slots } := by
  obtain ⟨state, tracked⟩ := exists_tracked resting distinct
  obtain ⟨state', ran, tracked'⟩ := refinesSlotClaims_of_run tracked reached
  rw [← tracked.run] at safe
  rw [← tracked'.run]
  exact SlotClaims.safe_of_run safe ran

end Entry

end MoistureLoop
