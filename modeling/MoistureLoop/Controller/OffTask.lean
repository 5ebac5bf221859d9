import MoistureLoop.Controller.Rule

/-! # The task of one OFF operation

Where one operation stands, and which application of its outcome holds the lock, change
only by the steps of its own task; every other step of the controller at most begins it. -/

open MoistureLoop.Action

namespace MoistureLoop

namespace ZoneController

/-- Where an operation stands; none before it is begun. -/
def offPhase (controller : ZoneController) (operation : Nat) : Option OffPhase :=
  controller.offOperations[operation]?.map OffOperation.phase

/-- The application of an operation's outcome, while it holds the lock. -/
def outcomeApplying (controller : ZoneController) (operation : Nat) :
    Option (Decision × TransitionInput × List Action) :=
  match controller.locked with
  | some (.applying decision input rest (.offOperation other)) =>
    if other = operation then some (decision, input, rest) else none
  | _ => none

def offBegun : OffPhase := .commanding (offTotalAttempts - 1)

/-- `next` has the operation where it was, or has just begun it. -/
structure OffKept (operation : Nat) (controller next : ZoneController) : Prop where
  phase : next.offPhase operation = controller.offPhase operation ∨
    controller.offPhase operation = none ∧ next.offPhase operation = some offBegun
  applying : next.outcomeApplying operation = controller.outcomeApplying operation

variable {operation : Nat} {controller next : ZoneController} {shared shared' : SharedState}
  {label : ControllerLabel} {sessionId : String}

theorem OffKept.refl (controller : ZoneController) : OffKept operation controller controller :=
  ⟨.inl rfl, rfl⟩

theorem OffKept.trans {second third : ZoneController} (left : OffKept operation controller second)
    (right : OffKept operation second third) : OffKept operation controller third where
  phase := by
    rcases right.phase with same | ⟨absent, begun⟩
    · rw [same]
      exact left.phase
    · rcases left.phase with same | ⟨-, begun'⟩
      · exact .inr ⟨same ▸ absent, begun⟩
      · simp [begun'] at absent
  applying := right.applying.trans left.applying

theorem outcomeApplying_of_unlocked (unlocked : controller.locked = none) :
    controller.outcomeApplying operation = none := by
  simp [outcomeApplying, unlocked]

theorem OffKept.of_fields (offOperations : next.offOperations = controller.offOperations)
    (locked : next.locked = controller.locked) : OffKept operation controller next :=
  ⟨.inl (by rw [offPhase, offOperations]; rfl), by simp only [outcomeApplying, locked]⟩

/-- The lock passes between holders that apply no outcome of the operation. -/
theorem OffKept.of_locked (offOperations : next.offOperations = controller.offOperations)
    (before : controller.outcomeApplying operation = none)
    (after : next.outcomeApplying operation = none) : OffKept operation controller next :=
  ⟨.inl (by rw [offPhase, offOperations]; rfl), after.trans before.symm⟩

theorem Quiet.offKept (quiet : Quiet controller next) : OffKept operation controller next :=
  .of_fields quiet.offOperations quiet.locked

theorem Frame.offKept (frame : Frame controller next) : OffKept operation controller next :=
  .of_fields frame.offOperations frame.locked

/-! ## The shared operations -/

theorem offPhase_setOffPhase (controller : ZoneController) (other : Nat) (phase : OffPhase) :
    (controller.setOffPhase other phase).offPhase operation =
      if other = operation then (controller.offPhase operation).map fun _ => phase
      else controller.offPhase operation := by
  simp only [offPhase, setOffPhase, List.getElem?_modify, Option.map_map]
  cases controller.offOperations[operation]? with
  | none => split <;> rfl
  | some current => split <;> rfl

@[simp] theorem outcomeApplying_setOffPhase (controller : ZoneController) (other : Nat)
    (phase : OffPhase) :
    (controller.setOffPhase other phase).outcomeApplying operation =
      controller.outcomeApplying operation := rfl

theorem setOffPhase_offKept {other : Nat} (differs : other ≠ operation) (phase : OffPhase) :
    OffKept operation controller (controller.setOffPhase other phase) :=
  ⟨.inl (by rw [offPhase_setOffPhase, if_neg differs]), rfl⟩

/-- An operation is joined, or a new one is begun. -/
theorem beginOffOperation_offKept (requestedFor : Option PulseId) :
    OffKept operation controller (controller.beginOffOperation requestedFor) := by
  rcases controller.beginOffOperation_cases requestedFor with ⟨joined, -⟩ | begun
  · rw [joined]
    exact .refl _
  · rw [begun]
    refine ⟨?_, rfl⟩
    simp only [offPhase, newOffOperation]
    rcases Nat.lt_trichotomy operation controller.offOperations.length with earlier | rfl | later
    · exact .inl (by rw [List.getElem?_append_left earlier])
    · exact .inr ⟨by simp, by simp [offBegun]⟩
    · have absent : operation - controller.offOperations.length ≠ 0 := by omega
      exact .inl (by simp [List.getElem?_append_right later.le, List.getElem?_eq_none later.le,
        absent])

theorem ensureOffOperation_offKept (requestedFor : Option PulseId) (compensating : Bool) :
    OffKept operation controller (controller.ensureOffOperation requestedFor compensating) := by
  have cleared : OffKept operation controller { controller with offRequested := false } :=
    .of_fields rfl rfl
  exact (cleared.trans (beginOffOperation_offKept requestedFor)).trans (.of_fields rfl rfl)

theorem compensate_offKept (shared : SharedState) (configurationChanged serviceFailed : Bool) :
    OffKept operation controller (controller.compensate shared configurationChanged serviceFailed) := by
  have frame := (controller.commitOnCompensationNow_spec shared configurationChanged
    serviceFailed).1
  unfold compensate
  simp only
  split
  · exact frame.offKept.trans (.of_fields rfl rfl)
  · exact frame.offKept.trans (ensureOffOperation_offKept _ _)

/-! ## Applications by others -/

/-- The end of another application. -/
theorem afterApply_offKept {applier : Applier} (other : applier ≠ .offOperation operation)
    (raised : Bool) (free : controller.outcomeApplying operation = none) :
    OffKept operation controller (controller.afterApply applier raised) := by
  have released : OffKept operation controller { controller with locked := none } :=
    .of_locked rfl free rfl
  cases applier with
  | event => exact released
  | slot => exact released.trans (.of_fields rfl rfl)
  | offOperation current =>
    have differs : current ≠ operation := fun same => other (by rw [same])
    simp only [afterApply]
    split
    · exact released
    · rename_i found _
      have phased := released.trans
        (setOffPhase_offKept differs (found.phase.afterDispatch raised))
      split
      · exact phased.trans (.of_fields rfl rfl)
      · exact phased
  | refusal => exact released.trans (.of_fields rfl rfl)
  | confirmation =>
    cases raised with
    | true => exact released.trans (.of_fields rfl rfl)
    | false => exact .of_locked rfl free rfl

/-- Another event is decided while the lock is free. -/
theorem decideAndApply_offKept {event : ControllerEvent} {applier : Applier}
    (other : applier ≠ .offOperation operation)
    (free : controller.outcomeApplying operation = none) :
    OffKept operation controller
      (controller.decideAndApply shared event applier sessionId) := by
  have rolled : OffKept operation controller
      (controller.rollDaily shared.calendar shared.now) := (controller.rollDaily_quiet _ _).offKept
  rcases controller.decideAndApply_cases shared event applier sessionId with
    ⟨raised, applied⟩ | ⟨decision, -, -, applied⟩
  · rw [applied]
    exact rolled.trans (afterApply_offKept other raised (rolled.applying.trans free))
  · rw [applied]
    obtain ⟨frame, -, -⟩ := controller.applyPrelude_rolled shared decision
      ((controller.rollDaily shared.calendar shared.now).buildInput shared event sessionId)
    refine frame.offKept.trans (.of_locked rfl (frame.offKept.applying.trans free) ?_)
    cases applier with
    | offOperation current =>
      have differs : current ≠ operation := fun same => other (by rw [same])
      simp [outcomeApplying, differs]
    | _ => rfl

theorem applyAction_offOperations (controller : ZoneController) (shared : SharedState)
    (action : Action) (saved : Bool) :
    (controller.applyAction shared action saved).1.1.offOperations = controller.offOperations ∧
      (controller.applyAction shared action saved).1.1.locked = controller.locked := by
  by_cases on : action = turnOn
  · subst on
    exact ⟨rfl, rfl⟩
  · cases off : StateMachine.isExecuteOff action with
    | true =>
      cases action with
      | executeOff defensive => exact ⟨rfl, rfl⟩
      | _ => cases off
    | false =>
      have quiet := controller.applyAction_quiet shared action saved on off
      exact ⟨quiet.offOperations, quiet.locked⟩

theorem act_offKept {saved : Bool} {decision : Decision} {input : TransitionInput}
    {applier : Applier} {rest : List Action} (other : applier ≠ .offOperation operation)
    (free : controller.outcomeApplying operation = none) :
    OffKept operation controller
      (controller.act shared saved decision input applier rest).1 := by
  have finish : ∀ {acted : ZoneController} (raised : Bool),
      OffKept operation controller acted →
      OffKept operation controller (acted.afterApply applier raised) := fun raised kept =>
    kept.trans (afterApply_offKept other raised (kept.applying.trans free))
  cases rest with
  | nil =>
    refine finish false ?_
    unfold applyFinish
    split
    · exact .of_fields rfl rfl
    · exact .refl _
  | cons action rest =>
    obtain ⟨offOperations, locked⟩ := applyAction_offOperations controller shared action saved
    have acted : OffKept operation controller
        (controller.applyAction shared action saved).1.1 := .of_fields offOperations locked
    simp only [act]
    generalize applied : controller.applyAction shared action saved = result at acted ⊢
    obtain ⟨⟨after, shared'⟩, raised⟩ := result
    cases raised with
    | none =>
      refine acted.trans (.of_locked ?_ (acted.applying.trans free) ?_)
      · cases action <;> rfl
      · have held : ({ after.noteRequest action input with
            locked := some (.applying decision input rest applier) } :
              ZoneController).outcomeApplying operation = none := by
          cases applier with
          | offOperation current =>
            have differs : current ≠ operation := fun same => other (by rw [same])
            simp [outcomeApplying, differs]
          | _ => rfl
        exact held
    | some err =>
      have failed : OffKept operation controller after.handlePersistFailure := by
        obtain ⟨-, -, -, -, operations, held, -⟩ := after.handlePersistFailure_spec
        exact acted.trans (.of_fields operations held)
      cases err with
      | storeWriteVerification message => exact finish false failed
      | _ => exact finish true acted

/-! ## Steps of others -/

end ZoneController

/-- The steps of the operation's task outside an application. -/
def ControllerLabel.isOffStep (operation : Nat) : ControllerLabel → Bool
  | .offServiceReturned other _ | .offProofEnded other | .offAborted other | .offDispatch other =>
    other = operation
  | _ => false

namespace ZoneController

variable {operation : Nat} {controller next : ZoneController} {shared shared' : SharedState}
  {label : ControllerLabel} {sessionId : String}

theorem recheckOn_offKept {marker : InFlightOn} {authority : OnAuthority} {serviceFailed : Bool}
    {continued : ZoneController → ZoneController}
    (goesOn : OffKept operation controller (continued controller)) :
    OffKept operation controller
      (controller.recheckOn shared marker authority serviceFailed continued) := by
  rcases recheckOn_cases controller shared marker authority serviceFailed continued with
    same | ⟨required, changed, same⟩
  · rw [same]
    exact goesOn
  · rw [same]
    exact (quiesceIf_quiet controller required).offKept.trans (compensate_offKept _ _ _)

theorem gate_offKept (authority : OnAuthority) (unlocked : controller.locked = none) :
    OffKept operation controller (controller.gate shared authority sessionId) := by
  rcases controller.gate_cases shared authority sessionId with
    quiet | ⟨session, -, -, same⟩ | ⟨refusing, event, quiet, -, same⟩
  · exact quiet.offKept
  · rw [same]
    exact .of_fields rfl rfl
  · rw [same]
    exact quiet.offKept.trans (decideAndApply_offKept (by simp)
      (outcomeApplying_of_unlocked (quiet.locked.trans unlocked)))

theorem anchor_offKept (saved : Bool) (locked : controller.locked = some .persistingCommand) :
    OffKept operation controller (controller.anchor shared saved).1 := by
  have rolled : OffKept operation controller (controller.rollDaily shared.calendar shared.now) :=
    (controller.rollDaily_quiet _ _).offKept
  have free : controller.outcomeApplying operation = none := by simp [outcomeApplying, locked]
  have released : OffKept operation controller
      { controller.rollDaily shared.calendar shared.now with locked := none } :=
    rolled.trans (.of_locked rfl (rolled.applying.trans free) rfl)
  simp only [anchor]
  split
  · exact rolled.trans (.of_locked rfl (rolled.applying.trans free) rfl)
  · obtain ⟨-, -, -, -, operations, held, -⟩ := handlePersistFailure_spec
      { controller.rollDaily shared.calendar shared.now with locked := none }
    have failed := released.trans (OffKept.of_fields operations held)
    exact failed.trans (compensate_offKept _ _ _)
  · exact released.trans (.of_fields rfl rfl)

theorem sessionStep_offKept
    (stepped : controller.sessionStep shared label sessionId = some (next, shared')) :
    OffKept operation controller next := by
  unfold sessionStep at stepped
  split at stepped
  · obtain ⟨woken, step, same⟩ := Option.map_eq_some_iff.mp stepped
    obtain ⟨rfl, -⟩ := Prod.mk.inj same
    unfold wake at step
    split at step
    · obtain rfl := Option.some.inj step
      exact .of_fields rfl rfl
    · split at step
      · obtain rfl := Option.some.inj step
        exact ensureOffOperation_offKept _ _
      · split at step
        · obtain rfl := Option.some.inj step
          exact .of_fields rfl rfl
        · cases step
  · rename_i authority _ unlocked
    obtain ⟨rfl, -⟩ := Prod.mk.inj (Option.some.inj stepped)
    exact gate_offKept authority unlocked
  · rename_i raised authority marker _ _
    obtain ⟨rfl, -⟩ := Prod.mk.inj (Option.some.inj stepped)
    have recorded : OffKept operation controller (controller.recordPossibleCommand marker) :=
      .of_fields rfl rfl
    exact recorded.trans (recheckOn_offKept (.of_fields rfl rfl))
  · rename_i authority marker _ unlocked _
    obtain ⟨rfl, -⟩ := Prod.mk.inj (Option.some.inj stepped)
    exact recheckOn_offKept (.of_locked rfl (outcomeApplying_of_unlocked unlocked) rfl)
  · rename_i saved _ locked
    have anchored : OffKept operation controller (controller.anchor shared saved).1 :=
      anchor_offKept saved locked
    rw [show controller.anchor shared saved = (next, shared') from Option.some.inj stepped]
      at anchored
    exact anchored
  · rename_i authority confirmed marker _ locked _
    obtain ⟨rfl, -⟩ := Prod.mk.inj (Option.some.inj stepped)
    have released : OffKept operation controller { controller with locked := none } :=
      .of_locked rfl (by simp [outcomeApplying, locked]) rfl
    refine released.trans (recheckOn_offKept ?_)
    unfold afterRecheck
    split
    · exact decideAndApply_offKept (by simp) rfl
    · exact .of_fields rfl rfl
  · split at stepped
    · obtain ⟨rfl, -⟩ := Prod.mk.inj (Option.some.inj stepped)
      exact .of_fields rfl rfl
    · cases stepped
  · cases stepped

theorem slotStep_offKept
    (stepped : controller.slotStep shared label sessionId = some (next, shared')) :
    OffKept operation controller next := by
  unfold slotStep at stepped
  split at stepped
  · obtain ⟨rfl, -⟩ := Prod.mk.inj (Option.some.inj stepped)
    exact .of_fields rfl rfl
  · split at stepped
    · split at stepped
      · obtain ⟨rfl, -⟩ := Prod.mk.inj (Option.some.inj stepped)
        exact .of_fields rfl rfl
      · obtain ⟨rfl, -⟩ := Prod.mk.inj (Option.some.inj stepped)
        exact .of_fields rfl rfl
    · cases stepped
  · split at stepped
    · rename_i unlocked
      obtain ⟨rfl, -⟩ := Prod.mk.inj (Option.some.inj stepped)
      exact decideAndApply_offKept (by simp) (outcomeApplying_of_unlocked unlocked)
    · cases stepped
  · obtain ⟨rfl, -⟩ := Prod.mk.inj (Option.some.inj stepped)
    exact .of_fields rfl rfl
  · cases stepped

theorem actuatorStep_offKept
    (stepped : controller.actuatorStep shared label sessionId = some (next, shared')) :
    OffKept operation controller next := by
  unfold actuatorStep at stepped
  split at stepped
  · obtain ⟨rfl, -⟩ := Prod.mk.inj (Option.some.inj stepped)
    exact .of_fields rfl rfl
  · rename_i unlocked
    have free : controller.outcomeApplying operation = none := outcomeApplying_of_unlocked unlocked
    split at stepped
    · cases stepped
    · rename_i change rest _
      have taken : OffKept operation controller { controller with actuatorChanges := rest } :=
        .of_fields rfl rfl
      simp only at stepped
      split at stepped
      · obtain ⟨rfl, -⟩ := Prod.mk.inj (Option.some.inj stepped)
        exact taken
      · obtain ⟨rfl, -⟩ := Prod.mk.inj (Option.some.inj stepped)
        exact taken.trans (decideAndApply_offKept (by simp) (taken.applying.trans free))
      · obtain ⟨rfl, -⟩ := Prod.mk.inj (Option.some.inj stepped)
        exact .of_locked rfl free rfl
  · rename_i saved change active locked
    have released : OffKept operation controller { controller with locked := none } :=
      .of_locked rfl (by simp [outcomeApplying, locked]) rfl
    simp only at stepped
    split at stepped
    · obtain ⟨rfl, -⟩ := Prod.mk.inj (Option.some.inj stepped)
      exact released
    · split at stepped
      · obtain ⟨rfl, -⟩ := Prod.mk.inj (Option.some.inj stepped)
        exact released.trans (decideAndApply_offKept (by simp) rfl)
      · obtain ⟨rfl, -⟩ := Prod.mk.inj (Option.some.inj stepped)
        exact released
  · cases stepped

/-- The steps of another operation's task. -/
theorem offStep_offKept (other : label.isOffStep operation = false)
    (stepped : controller.offStep shared label sessionId = some next) :
    OffKept operation controller next := by
  unfold offStep at stepped
  split at stepped
  · rename_i current reading
    have differs : current ≠ operation := by simpa [ControllerLabel.isOffStep] using other
    split at stepped
    · obtain rfl := Option.some.inj stepped
      have read : OffKept operation controller { controller with assessment := reading } :=
        .of_fields rfl rfl
      unfold offServiceReturned
      simp only
      split
      · exact read.trans (setOffPhase_offKept differs _)
      · exact read.trans (setOffPhase_offKept differs _)
    · cases stepped
  · rename_i current
    have differs : current ≠ operation := by simpa [ControllerLabel.isOffStep] using other
    split at stepped
    · obtain rfl := Option.some.inj stepped
      unfold offProofEnded
      split
      · exact setOffPhase_offKept differs _
      · exact setOffPhase_offKept differs _
    · cases stepped
  · rename_i current
    have differs : current ≠ operation := by simpa [ControllerLabel.isOffStep] using other
    split at stepped
    · obtain rfl := Option.some.inj stepped
      exact setOffPhase_offKept differs _
    · obtain rfl := Option.some.inj stepped
      exact setOffPhase_offKept differs _
    · cases stepped
  · rename_i current
    have differs : current ≠ operation := by simpa [ControllerLabel.isOffStep] using other
    have apart : Applier.offOperation current ≠ .offOperation operation := by simp [differs]
    split at stepped
    · rename_i unlocked
      have free : controller.outcomeApplying operation = none := outcomeApplying_of_unlocked unlocked
      split at stepped
      · rename_i confirmedAt _
        obtain rfl := Option.some.inj stepped
        have phased : OffKept operation controller
            (controller.setOffPhase current (.dispatching confirmedAt)) :=
          setOffPhase_offKept differs _
        exact phased.trans (decideAndApply_offKept apart (phased.applying.trans free))
      · obtain rfl := Option.some.inj stepped
        exact decideAndApply_offKept apart free
      · cases stepped
    · cases stepped
  · cases stepped

/-- A step that is not one of the operation's task leaves it where it is, or begins it. -/
theorem step_offKept (other : label.isOffStep operation = false)
    (acts : ∀ saved, label = .act saved → controller.outcomeApplying operation = none)
    (stepped : controller.step shared label sessionId = some (next, shared')) :
    OffKept operation controller next := by
  cases label with
  -- Events are decided while no outcome of the operation is applied.
  | dispatch event =>
    simp only [step, Option.ite_none_right_eq_some] at stepped
    obtain ⟨⟨unlocked, -⟩, same⟩ := stepped
    obtain ⟨rfl, -⟩ := Prod.mk.inj (Option.some.inj same)
    exact decideAndApply_offKept (by simp) (outcomeApplying_of_unlocked unlocked)
  | moisture observation =>
    simp only [step, Option.ite_none_right_eq_some] at stepped
    obtain ⟨unlocked, same⟩ := stepped
    have observed : OffKept operation controller { controller with observation := observation } :=
      .of_fields rfl rfl
    split at same
    · obtain ⟨rfl, -⟩ := Prod.mk.inj (Option.some.inj same)
      exact observed.trans (decideAndApply_offKept (by simp)
        (observed.applying.trans (outcomeApplying_of_unlocked unlocked)))
    · obtain ⟨rfl, -⟩ := Prod.mk.inj (Option.some.inj same)
      exact observed
  | setEnabled enabled =>
    simp only [step, Option.ite_none_right_eq_some] at stepped
    obtain ⟨unlocked, same⟩ := stepped
    obtain ⟨rfl, -⟩ := Prod.mk.inj (Option.some.inj same)
    have toggled : OffKept operation controller { controller with enabled := enabled } :=
      .of_fields rfl rfl
    exact toggled.trans (decideAndApply_offKept (by simp)
      (toggled.applying.trans (outcomeApplying_of_unlocked unlocked)))
  -- The next action belongs to another applier.
  | act saved =>
    have free := acts saved rfl
    simp only [step] at stepped
    split at stepped
    · rename_i decision input rest applier locked
      have other : applier ≠ .offOperation operation := by
        rintro rfl
        simp [outcomeApplying, locked] at free
      have acted : OffKept operation controller
          (controller.act shared saved decision input applier rest).1 := act_offKept other free
      rw [show controller.act shared saved decision input applier rest = (next, shared') from
        Option.some.inj stepped] at acted
      exact acted
    · cases stepped
  | actuatorEvent _ _ _ | actuatorChange | provingOff _ =>
    simp only [step] at stepped
    exact actuatorStep_offKept stepped
  | slotRequest | slotResume | slotOffer | slotCancelled =>
    simp only [step] at stepped
    exact slotStep_offKept stepped
  | wake | gate _ | serviceReturned _ _ | reenter _ | anchor _ | recheck _ | offJoined =>
    simp only [step] at stepped
    exact sessionStep_offKept stepped
  | offServiceReturned _ _ | offProofEnded _ | offAborted _ | offDispatch _ =>
    simp only [step] at stepped
    obtain ⟨after, moved, same⟩ := Option.map_eq_some_iff.mp stepped
    obtain ⟨rfl, -⟩ := Prod.mk.inj same
    exact offStep_offKept other moved
  | ensureOff =>
    obtain ⟨rfl, -⟩ := Prod.mk.inj (Option.some.inj stepped)
    exact beginOffOperation_offKept _
  | quiesce =>
    obtain ⟨rfl, -⟩ := Prod.mk.inj (Option.some.inj stepped)
    exact .of_fields rfl rfl
  | updateOwnership zoneHistoryId lifecycle =>
    obtain ⟨rfl, -⟩ := Prod.mk.inj (Option.some.inj stepped)
    exact .of_fields rfl rfl

end ZoneController

end MoistureLoop
