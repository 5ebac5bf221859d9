import MoistureLoop.Controller.TurnOnOnce
import MoistureLoop.StateMachine.Starts

/-! # How a controller goes on with a pulse

The first action of a start persists the session with its intent, the TurnOn comes later, and
the ON command later still, from another task.  A step begins a pulse only by deciding a start;
every other step keeps the pulse, or ends it. -/

open MoistureLoop.Action

namespace MoistureLoop.ZoneController

def intentAhead : List Action → Bool
  | [] => false
  | action :: rest =>
    match action with
    | .turnOn => false
    | .persistState _ => decide (turnOn ∈ rest)
    | _ => intentAhead rest

theorem turnOn_of_intentAhead {actions : List Action} (intends : intentAhead actions = true) :
    turnOn ∈ actions := by
  induction actions with
  | nil => cases intends
  | cons action rest inductionHypothesis =>
    cases action with
    | turnOn => exact List.mem_cons_self
    | persistState tag => exact List.mem_cons_of_mem _ (of_decide_eq_true intends)
    | _ => exact List.mem_cons_of_mem _ (inductionHypothesis intends)

/-- Every start persists its intent first. -/
theorem intentAhead_of_start {inp : TransitionInput} {decision : Decision}
    (decided : StateMachine.decide inp = .ok decision) (starts : turnOn ∈ decision.actions) :
    intentAhead decision.actions = true := by
  cases StateMachine.decide_start decided starts with
  | first _ _ _ _ _ _ _ _ started =>
    rw [started.actions]
    simp [StateMachine.autoStartActions, intentAhead]
  | next _ _ _ _ _ _ _ _ _ _ started =>
    rw [started.actions]
    simp [StateMachine.autoStartActions, intentAhead]
  | manual _ _ _ _ _ _ started =>
    rw [started.actions]
    simp [StateMachine.manualStartActions, intentAhead]

/-! ## How a step goes on with a pulse -/

/-- The session of `next` is that of `controller`, in the same pulse and not opened again. -/
structure PulseKept (controller next : ZoneController) : Prop where
  session : ∀ after, next.session = some after → ∃ before, controller.session = some before ∧
    before.pulse = after.pulse ∧ (after.openPulse = true → before.openPulse = true)
  watering : next.state = .watering → controller.state = .watering

/-- `next` has just decided a start, or keeps the pulse and has no start ahead that
`controller` did not have. -/
inductive GoesOn (controller next : ZoneController) : Prop where
  | began : turnOn ∉ controller.ahead → intentAhead next.ahead = true → GoesOn controller next
  | kept : PulseKept controller next → (turnOn ∈ controller.ahead → next.ahead = controller.ahead) →
      (turnOn ∉ controller.ahead → turnOn ∉ next.ahead) → GoesOn controller next

variable {base controller next : ZoneController} {shared shared' : SharedState}
  {label : ControllerLabel} {sessionId : String}

theorem PulseKept.refl (controller : ZoneController) : PulseKept controller controller :=
  ⟨fun session held => ⟨session, held, rfl, id⟩, id⟩

theorem PulseKept.trans (first : PulseKept base controller) (second : PulseKept controller next) :
    PulseKept base next := by
  refine ⟨fun after held => ?_, fun watering => first.watering (second.watering watering)⟩
  obtain ⟨between, held, same, opened⟩ := second.session after held
  obtain ⟨before, held, same', opened'⟩ := first.session between held
  exact ⟨before, held, same'.trans same, fun open' => opened' (opened open')⟩

theorem PulseKept.of_same (session : next.session = controller.session)
    (state : next.state = controller.state) : PulseKept controller next :=
  ⟨fun after held => ⟨after, session ▸ held, rfl, id⟩, fun watering => state ▸ watering⟩

theorem SameCore.pulseKept (same : SameCore controller next) : PulseKept controller next :=
  .of_same same.session same.state

/-- Nothing is decided: the pulse goes on with the same actions ahead. -/
theorem GoesOn.keep (goes : GoesOn base controller) (kept : PulseKept controller next)
    (ahead : next.ahead = controller.ahead) : GoesOn base next := by
  cases goes with
  | began none' intends => exact .began none' (ahead ▸ intends)
  | kept first same nothing =>
    exact .kept (first.trans kept) (fun starting => ahead.trans (same starting))
      fun none' => ahead ▸ nothing none'

theorem beginOff_pulseKept (controller : ZoneController) (requestedFor : Option PulseId) :
    PulseKept controller (controller.beginOffOperation requestedFor) ∧
      (controller.beginOffOperation requestedFor).ahead = controller.ahead := by
  unfold beginOffOperation
  split <;> exact ⟨.of_same rfl rfl, rfl⟩

theorem ensureOff_pulseKept (controller : ZoneController) (requestedFor : Option PulseId)
    (compensating : Bool) :
    PulseKept controller (controller.ensureOffOperation requestedFor compensating) ∧
      (controller.ensureOffOperation requestedFor compensating).ahead = controller.ahead := by
  obtain ⟨kept, ahead⟩ :=
    beginOff_pulseKept { controller with offRequested := false } requestedFor
  have away : PulseKept controller { controller with offRequested := false } := .of_same rfl rfl
  exact ⟨(away.trans kept).trans (.of_same rfl rfl), ahead⟩

theorem compensate_pulseKept (shared : SharedState) (configurationChanged serviceFailed : Bool) :
    PulseKept controller (controller.compensate shared configurationChanged serviceFailed) ∧
      (controller.compensate shared configurationChanged serviceFailed).ahead =
        controller.ahead := by
  have spec := controller.commitOnCompensationNow_spec shared configurationChanged serviceFailed
  unfold compensate
  generalize controller.commitOnCompensationNow shared configurationChanged serviceFailed
    = result at spec ⊢
  obtain ⟨committed, raised⟩ := result
  obtain ⟨frame, absent, present⟩ := spec
  simp only at frame absent present ⊢
  have kept : PulseKept controller committed := by
    cases prior : controller.session with
    | none =>
      obtain ⟨none', state'⟩ := absent prior
      exact .of_same (none'.trans prior.symm) state'
    | some session =>
      obtain ⟨after, held, same, opened, stays⟩ := present session prior
      refine ⟨fun other held' => ?_, fun watering => (stays watering).1⟩
      obtain rfl := Option.some.inj (held.symm.trans held')
      exact ⟨session, prior, same.symm, opened⟩
  have ahead : committed.ahead = controller.ahead := ahead_congr frame.locked
  cases raised with
  | true => exact ⟨kept.trans (.of_same rfl rfl), ahead⟩
  | false =>
    obtain ⟨goes, same⟩ := committed.ensureOff_pulseKept (committed.session.map
      SessionContext.pulse) true
    exact ⟨kept.trans goes, same.trans ahead⟩

theorem handlePersistFailure_pulseKept : PulseKept controller controller.handlePersistFailure := by
  obtain ⟨state, -, -, -, -, -, session, -⟩ := controller.handlePersistFailure_spec
  refine ⟨fun after held => ?_, fun watering => by rw [state] at watering; cases watering⟩
  rw [session] at held
  obtain ⟨before, had, rfl⟩ := Option.map_eq_some_iff.mp held
  exact ⟨before, had, rfl, id⟩

theorem recordPossibleCommand_pulseKept (marker : InFlightOn) :
    PulseKept controller (controller.recordPossibleCommand marker) := by
  refine ⟨fun after held => ?_, id⟩
  obtain ⟨before, had, rfl⟩ := Option.map_eq_some_iff.mp held
  refine ⟨before, had, ?_, ?_⟩
  · split <;> rfl
  · split <;> exact id

theorem GoesOn.decide (goes : GoesOn base controller) (unlocked : controller.locked = none)
    (event : ControllerEvent) (applier : Applier) (sessionId : String) :
    GoesOn base (controller.decideAndApply shared event applier sessionId) := by
  have nothing : controller.ahead = [] := ahead_of_unlocked unlocked
  have rolled := controller.rollDaily_sameDecided shared.calendar shared.now
  cases goes with
  | began _ intends => rw [nothing] at intends; cases intends
  | kept first same _ =>
    have resting : turnOn ∉ base.ahead := by
      intro starting
      have empty := same starting
      rw [nothing] at empty
      rw [← empty] at starting
      cases starting
    have keeps : ∀ {after : ZoneController}, PulseKept controller after →
        turnOn ∉ after.ahead → GoesOn base after := fun kept silent =>
      .kept (first.trans kept) (fun starting => absurd starting resting) fun _ => silent
    rcases controller.decideAndApply_cases shared event applier sessionId with
      ⟨raised, applied⟩ | ⟨decision, effect, ⟨decided, -⟩, applied⟩
    · rw [applied]
      obtain ⟨core, empty⟩ := afterApply_sameCore
        (controller.rollDaily shared.calendar shared.now) applier raised
      exact keeps (rolled.sameCore.trans core).pulseKept (by simp [empty])
    · rw [applied]
      obtain ⟨-, session', state'⟩ := controller.applyPrelude_rolled shared decision
        ((controller.rollDaily shared.calendar shared.now).buildInput shared event sessionId)
      have inputSession : ((controller.rollDaily shared.calendar shared.now).buildInput shared
        event sessionId).session = controller.session := rolled.session
      have inputState : ((controller.rollDaily shared.calendar shared.now).buildInput shared
        event sessionId).state = controller.state := rolled.state
      generalize (controller.rollDaily shared.calendar shared.now).applyPrelude shared decision _
        = adopted at session' state' ⊢
      generalize (controller.rollDaily shared.calendar shared.now).buildInput shared event
        sessionId = input at effect decided inputSession inputState ⊢
      cases effect with
      | starts _ _ _ _ _ _ _ on => exact .began resting (intentAhead_of_start decided on)
      | clears cleared _ away silent =>
        refine keeps ⟨fun after held => ?_, fun watering => ?_⟩ silent
        · have left : adopted.session = some after := held
          simp [session', cleared] at left
        · have left : adopted.state = .watering := watering
          exact absurd (state' ▸ left) (inputState ▸ away)
      | updates before after held decided' uncleared same opened silent _ stays =>
        refine keeps ⟨fun final left => ?_, fun watering => ?_⟩ silent
        · have left : adopted.session = some final := left
          simp only [session', uncleared, decided', Bool.false_eq_true, if_false,
            Option.some_or, Option.some.injEq] at left
          subst left
          exact ⟨before, inputSession ▸ held, same.symm, opened⟩
        · have left : adopted.state = .watering := watering
          exact inputState ▸ (stays (inputState ▸ state' ▸ left)).1
      | keeps decided' uncleared silent _ stays =>
        refine keeps ⟨fun final left => ?_, fun watering => ?_⟩ silent
        · have left : adopted.session = some final := left
          simp only [session', uncleared, decided', Bool.false_eq_true, if_false,
            Option.none_or] at left
          exact ⟨final, left, rfl, id⟩
        · have left : adopted.state = .watering := watering
          exact inputState ▸ stays (inputState ▸ state' ▸ left)

theorem compensates_goesOn (base : ZoneController) : Compensates (GoesOn base) := by
  intro controller shared configurationChanged serviceFailed goes
  obtain ⟨kept, ahead⟩ := @compensate_pulseKept controller shared configurationChanged serviceFailed
  exact goes.keep kept ahead

/-- The pieces of a step go on with the pulse, or decide a start. -/
theorem closed_goesOn (base : ZoneController) : ClosedCore (GoesOn base) fun _ => True where
  sameCore goes same ahead := goes.keep same.pulseKept ahead
  decided event applier sessionId goes unlocked _ := goes.decide unlocked event applier sessionId
  compensated shared configurationChanged serviceFailed goes _ :=
    compensates_goesOn base shared configurationChanged serviceFailed goes
  ensured {controller} requestedFor compensating goes :=
    goes.keep (controller.ensureOff_pulseKept requestedFor compensating).1
      (controller.ensureOff_pulseKept requestedFor compensating).2
  begun {controller} requestedFor goes :=
    goes.keep (controller.beginOff_pulseKept requestedFor).1
      (controller.beginOff_pulseKept requestedFor).2
  recorded marker goes := goes.keep (recordPossibleCommand_pulseKept marker) rfl
  failed {controller} goes _ :=
    goes.keep handlePersistFailure_pulseKept (ahead_congr
      controller.handlePersistFailure_spec.2.2.2.2.2.1)

theorem step_goesOn (stepped : controller.step shared label sessionId = some (next, shared'))
    (notAct : ∀ saved, label ≠ .act saved) : GoesOn controller next :=
  (closed_goesOn controller).step trivial (.kept (.refl _) (fun _ => rfl) id)
    (fun saved _ _ _ _ same => absurd same (notAct saved)) (.inr (compensates_goesOn controller))
    stepped

/-! ## Which pulse a step begins -/

/-- A pulse that `next` begins is a later cycle of the session at hand, or its session has the
ID drawn for the step. -/
def BeginsFrom (controller : ZoneController) (sessionId : String) (next : ZoneController) : Prop :=
  turnOn ∉ controller.ahead → turnOn ∈ next.ahead → ∀ after, next.session = some after →
    after.sessionId = sessionId ∨ ∃ before, controller.session = some before ∧
      before.sessionId = after.sessionId ∧ before.cycle < after.cycle

theorem BeginsFrom.of_ahead (same : next.ahead = controller.ahead) :
    controller.BeginsFrom sessionId next :=
  fun resting starting => absurd (same ▸ starting) resting

theorem BeginsFrom.of_silent (silent : next.ahead = []) : controller.BeginsFrom sessionId next := by
  intro _ starting
  rw [silent] at starting
  cases starting

theorem beginsFrom_decide {deciding : ZoneController}
    (session : deciding.session = controller.session) (event : ControllerEvent)
    (applier : Applier) :
    controller.BeginsFrom sessionId
      (deciding.decideAndApply shared event applier sessionId) := by
  have rolled := deciding.rollDaily_sameDecided shared.calendar shared.now
  rcases deciding.decideAndApply_cases shared event applier sessionId with
    ⟨raised, applied⟩ | ⟨decision, -, ⟨decided, -⟩, applied⟩
  · rw [applied]
    exact .of_silent (afterApply_sameCore _ applier raised).2
  · rw [applied]
    intro _ starting after held
    obtain ⟨-, adopted, -⟩ := deciding.applyPrelude_rolled shared decision
      ((deciding.rollDaily shared.calendar shared.now).buildInput shared event sessionId)
    have adopts : ∀ {session : SessionContext} {actions : List Action},
        StateMachine.StartsWith decision session actions → session = after := fun started => by
      have left := adopted.symm.trans held
      simpa only [started.unclosed.1, started.session, Bool.false_eq_true, if_false,
        Option.some_or, Option.some.injEq] using left
    cases StateMachine.decide_start decided starting with
    | first _ _ _ _ _ _ minted _ started =>
      obtain rfl := Option.some.inj minted
      exact .inl (adopts started ▸ rfl)
    | next before _ _ _ had _ _ _ _ _ started =>
      refine .inr ⟨before, (session.symm.trans rolled.session.symm).trans had, ?_⟩
      rw [← adopts started]
      exact ⟨rfl, Nat.lt_succ_self _⟩
    | manual _ _ _ _ _ minted started =>
      obtain rfl := Option.some.inj minted
      exact .inl (adopts started ▸ rfl)

theorem recheckOn_beginsFrom {marker : InFlightOn} {authority : OnAuthority}
    {serviceFailed : Bool} {continued : ZoneController → ZoneController} {base : ZoneController}
    (unlocked : base.ahead = controller.ahead)
    (goesOn : base.BeginsFrom sessionId (continued controller)) :
    base.BeginsFrom sessionId
      (controller.recheckOn shared marker authority serviceFailed continued) := by
  rcases controller.recheckOn_cases shared marker authority serviceFailed continued with
    same | ⟨required, changed, same⟩
  · rw [same]
    exact goesOn
  · rw [same]
    have quiesced : (controller.quiesceIf required).ahead = controller.ahead := by
      unfold quiesceIf
      split <;> rfl
    exact .of_ahead ((compensate_pulseKept shared changed serviceFailed).2.trans
      (quiesced.trans unlocked.symm))

theorem anchor_silent (saved : Bool) : (controller.anchor shared saved).1.ahead = [] := by
  simp only [anchor]
  split
  · rfl
  · exact (compensate_pulseKept shared false true).2.trans
      (ahead_of_unlocked (handlePersistFailure_spec _).2.2.2.2.2.1)
  · rfl

theorem sessionStep_beginsFrom
    (stepped : controller.sessionStep shared label sessionId = some (next, shared')) :
    controller.BeginsFrom sessionId next := by
  unfold sessionStep at stepped
  split at stepped
  · obtain ⟨woken, step, same⟩ := Option.map_eq_some_iff.mp stepped
    obtain ⟨rfl, -⟩ := Prod.mk.inj same
    unfold wake at step
    split at step
    · obtain rfl := Option.some.inj step
      exact .of_ahead rfl
    · split at step
      · obtain rfl := Option.some.inj step
        exact .of_ahead (ensureOff_pulseKept _ _ _).2
      · split at step
        · obtain rfl := Option.some.inj step
          exact .of_ahead rfl
        · cases step
  · obtain ⟨rfl, -⟩ := Prod.mk.inj (Option.some.inj stepped)
    rename_i authority _ _
    rcases controller.gate_cases shared authority sessionId with
      quiet | ⟨session, -, -, gated⟩ | ⟨refusing, event, quiet, -, gated⟩
    · exact .of_ahead (ahead_congr quiet.locked)
    · rw [gated]
      exact .of_ahead rfl
    · rw [gated]
      exact beginsFrom_decide quiet.session _ _
  · obtain ⟨rfl, -⟩ := Prod.mk.inj (Option.some.inj stepped)
    exact recheckOn_beginsFrom rfl (.of_ahead rfl)
  · rename_i unlocked _
    obtain ⟨rfl, -⟩ := Prod.mk.inj (Option.some.inj stepped)
    exact recheckOn_beginsFrom rfl (.of_silent rfl)
  · rename_i saved _ _
    have anchored := @anchor_silent controller shared saved
    rw [show controller.anchor shared saved = (next, shared') from Option.some.inj stepped]
      at anchored
    exact .of_silent anchored
  · rename_i locked _
    obtain ⟨rfl, -⟩ := Prod.mk.inj (Option.some.inj stepped)
    refine recheckOn_beginsFrom (by simp [ahead, locked]) ?_
    unfold afterRecheck
    split
    · have released : { controller with locked := none }.session = controller.session := rfl
      exact beginsFrom_decide released _ _
    · exact .of_silent rfl
  · split at stepped
    · obtain ⟨rfl, -⟩ := Prod.mk.inj (Option.some.inj stepped)
      exact .of_ahead rfl
    · cases stepped
  · cases stepped

theorem actuatorStep_beginsFrom
    (stepped : controller.actuatorStep shared label sessionId = some (next, shared')) :
    controller.BeginsFrom sessionId next := by
  unfold actuatorStep at stepped
  split at stepped
  · obtain ⟨rfl, -⟩ := Prod.mk.inj (Option.some.inj stepped)
    exact .of_ahead rfl
  · split at stepped
    · cases stepped
    · rename_i change rest _
      have taken : { controller with actuatorChanges := rest }.session = controller.session := rfl
      simp only at stepped
      split at stepped <;> obtain ⟨rfl, -⟩ := Prod.mk.inj (Option.some.inj stepped)
      · exact .of_ahead rfl
      · exact beginsFrom_decide taken _ _
      · exact .of_silent rfl
  · have released : { controller with locked := none }.session = controller.session := rfl
    simp only at stepped
    split at stepped
    · obtain ⟨rfl, -⟩ := Prod.mk.inj (Option.some.inj stepped)
      exact .of_silent rfl
    · split at stepped <;> obtain ⟨rfl, -⟩ := Prod.mk.inj (Option.some.inj stepped)
      · exact beginsFrom_decide released _ _
      · exact .of_silent rfl
  · cases stepped

theorem slotStep_beginsFrom
    (stepped : controller.slotStep shared label sessionId = some (next, shared')) :
    controller.BeginsFrom sessionId next := by
  unfold slotStep at stepped
  split at stepped
  · obtain ⟨rfl, -⟩ := Prod.mk.inj (Option.some.inj stepped)
    exact .of_ahead rfl
  · split at stepped
    · split at stepped <;> obtain ⟨rfl, -⟩ := Prod.mk.inj (Option.some.inj stepped) <;>
        exact .of_ahead rfl
    · cases stepped
  · split at stepped
    · obtain ⟨rfl, -⟩ := Prod.mk.inj (Option.some.inj stepped)
      exact beginsFrom_decide rfl _ _
    · cases stepped
  · obtain ⟨rfl, -⟩ := Prod.mk.inj (Option.some.inj stepped)
    exact .of_ahead rfl
  · cases stepped

theorem offStep_beginsFrom (stepped : controller.offStep shared label sessionId = some next) :
    controller.BeginsFrom sessionId next := by
  cases label with
  | offServiceReturned operation reading =>
    simp only [offStep] at stepped
    split at stepped
    · obtain rfl := Option.some.inj stepped
      unfold offServiceReturned
      simp only
      split <;> exact .of_ahead rfl
    · cases stepped
  | offProofEnded operation =>
    simp only [offStep] at stepped
    split at stepped
    · obtain rfl := Option.some.inj stepped
      unfold offProofEnded
      split <;> exact .of_ahead rfl
    · cases stepped
  | offAborted operation =>
    simp only [offStep] at stepped
    split at stepped
    · obtain rfl := Option.some.inj stepped
      exact .of_ahead rfl
    · obtain rfl := Option.some.inj stepped
      exact .of_ahead rfl
    · cases stepped
  | offDispatch operation =>
    simp only [offStep] at stepped
    split at stepped
    · split at stepped
      · rename_i confirmedAt _
        obtain rfl := Option.some.inj stepped
        exact beginsFrom_decide (show (controller.setOffPhase operation
          (.dispatching confirmedAt)).session = controller.session from rfl) _ _
      · obtain rfl := Option.some.inj stepped
        exact beginsFrom_decide rfl _ _
      · cases stepped
    · cases stepped
  | _ => cases stepped

/-- A step draws one session ID at most. -/
theorem step_beginsFrom (stepped : controller.step shared label sessionId = some (next, shared'))
    (notAct : ∀ saved, label ≠ .act saved) : controller.BeginsFrom sessionId next := by
  cases label with
  | dispatch event =>
    simp only [ZoneController.step] at stepped
    split at stepped
    · obtain ⟨rfl, -⟩ := Prod.mk.inj (Option.some.inj stepped)
      exact beginsFrom_decide rfl _ _
    · cases stepped
  | moisture observation =>
    have observed : { controller with observation := observation }.session = controller.session :=
      rfl
    simp only [ZoneController.step] at stepped
    split at stepped
    · split at stepped <;> obtain ⟨rfl, -⟩ := Prod.mk.inj (Option.some.inj stepped)
      · exact beginsFrom_decide observed _ _
      · exact .of_ahead rfl
    · cases stepped
  | setEnabled enabled =>
    have toggled : { controller with enabled := enabled }.session = controller.session := rfl
    simp only [ZoneController.step] at stepped
    split at stepped
    · obtain ⟨rfl, -⟩ := Prod.mk.inj (Option.some.inj stepped)
      exact beginsFrom_decide toggled _ _
    · cases stepped
  | act saved => exact absurd rfl (notAct saved)
  | actuatorEvent | actuatorChange | provingOff =>
    simp only [ZoneController.step] at stepped
    exact actuatorStep_beginsFrom stepped
  | slotRequest | slotResume | slotOffer | slotCancelled =>
    simp only [ZoneController.step] at stepped
    exact slotStep_beginsFrom stepped
  | wake | gate | serviceReturned | reenter | anchor | recheck | offJoined =>
    simp only [ZoneController.step] at stepped
    exact sessionStep_beginsFrom stepped
  | offServiceReturned | offProofEnded | offAborted | offDispatch =>
    simp only [ZoneController.step] at stepped
    obtain ⟨moved, step, same⟩ := Option.map_eq_some_iff.mp stepped
    obtain ⟨rfl, -⟩ := Prod.mk.inj same
    exact offStep_beginsFrom step
  | ensureOff =>
    obtain ⟨rfl, -⟩ := Prod.mk.inj (Option.some.inj stepped)
    exact .of_ahead (beginOff_pulseKept _ _).2
  | quiesce | updateOwnership =>
    obtain ⟨rfl, -⟩ := Prod.mk.inj (Option.some.inj stepped)
    exact .of_ahead rfl

end MoistureLoop.ZoneController
