import MoistureLoop.Controller.Shared
import MoistureLoop.StateMachine.SessionChange

/-! # Who owns the session of a controller

A session carries the run that started it and the configuration it was started under.  A
controller gives its own to the sessions it starts and keeps those of the session it is in;
only the adoption of a persisted soak hands a session over to another run. -/

open MoistureLoop.Action

namespace MoistureLoop

def ControllerEvent.adopts : ControllerEvent → Option String
  | .startupPersistedSoaking true runId _ => runId
  | _ => none

def ControllerLabel.adopts : ControllerLabel → Option String
  | .dispatch event => event.adopts
  | _ => none

/-- `after` is the same session as `before`, of the same run and configuration. -/
structure SessionContext.SameOwner (before after : SessionContext) : Prop where
  sessionId : after.sessionId = before.sessionId
  ownerRunId : after.ownerRunId = before.ownerRunId
  configFingerprint : after.configFingerprint = before.configFingerprint

/-! ## Decisions -/

namespace StateMachine

theorem SessionChange.owner {inp : TransitionInput} {decision : Decision}
    {before after : SessionContext} (change : SessionChange inp decision before after) :
    before.SameOwner after ∨ inp.event.adopts = some after.ownerRunId := by
  cases change with
  | adopted _ _ event => exact .inr (by simp [event, ControllerEvent.adopts])
  | _ => exact .inl ⟨rfl, rfl, rfl⟩

/-- The session of a decision is one it starts, the one it was given, or adopted. -/
theorem decide_owner {inp : TransitionInput} {decision : Decision} {after : SessionContext}
    (decided : decide inp = .ok decision) (left : decision.session = some after) :
    (∃ identity, inp.newSessionIdentity = some identity ∧
      after.ownerRunId = identity.ownerRunId ∧
      after.configFingerprint = identity.configFingerprint) ∨
    inp.event.adopts = some after.ownerRunId ∨
    ∃ before, inp.session = some before ∧ before.SameOwner after := by
  cases decide_outcome decided with
  | starts start =>
    cases start with
    | first reportedAt identity _ _ _ _ minted _ started =>
      obtain rfl := Option.some.inj (started.session.symm.trans left)
      exact .inl ⟨identity, minted, rfl, rfl⟩
    | next session _ _ _ held _ _ _ _ _ started =>
      obtain rfl := Option.some.inj (started.session.symm.trans left)
      exact .inr (.inr ⟨session, held, rfl, rfl, rfl⟩)
    | manual _ _ identity _ _ minted started =>
      obtain rfl := Option.some.inj (started.session.symm.trans left)
      exact .inl ⟨identity, minted, rfl, rfl⟩
  | changes held changed _ _ _ change =>
    obtain rfl := Option.some.inj (changed.symm.trans left)
    rcases change.owner with same | adopted
    · exact .inr (.inr ⟨_, held, same⟩)
    · exact .inr (.inl adopted)
  | ends _ none' | keeps none' =>
    rw [none'] at left
    cases left

end StateMachine

namespace ZoneController

/-! ## The pieces of a step -/

/-- Where a session comes from: the controller started it, was handed it over, or had it. -/
inductive SessionOrigin (adopting : Option String) (controller : ZoneController)
    (session : SessionContext) : Prop where
  | started : session.ownerRunId = controller.runId →
      session.configFingerprint = controller.configFingerprint →
      SessionOrigin adopting controller session
  | adopted : adopting = some session.ownerRunId → SessionOrigin adopting controller session
  | kept {before : SessionContext} : controller.session = some before → before.SameOwner session →
      SessionOrigin adopting controller session

/-- `next` goes on for the same run under the same configuration, and its session has an
origin in `controller`. -/
structure KeepsOwner (adopting : Option String) (controller next : ZoneController) : Prop where
  runId : next.runId = controller.runId
  configFingerprint : next.configFingerprint = controller.configFingerprint
  session : ∀ session, next.session = some session → SessionOrigin adopting controller session

variable {adopting : Option String} {controller next : ZoneController}
  {shared shared' : SharedState} {label : ControllerLabel} {sessionId : String}

theorem KeepsOwner.of_same (runId : next.runId = controller.runId)
    (configFingerprint : next.configFingerprint = controller.configFingerprint)
    (session : next.session = controller.session) : KeepsOwner adopting controller next :=
  ⟨runId, configFingerprint, fun _ held => .kept (session ▸ held) ⟨rfl, rfl, rfl⟩⟩

theorem KeepsOwner.refl (controller : ZoneController) : KeepsOwner adopting controller controller :=
  .of_same rfl rfl rfl

theorem KeepsOwner.trans {middle : ZoneController} (first : KeepsOwner adopting controller middle)
    (second : KeepsOwner adopting middle next) : KeepsOwner adopting controller next where
  runId := second.runId.trans first.runId
  configFingerprint := second.configFingerprint.trans first.configFingerprint
  session session held := by
    cases second.session session held with
    | started owner fingerprint =>
      exact .started (owner.trans first.runId) (fingerprint.trans first.configFingerprint)
    | adopted handed => exact .adopted handed
    | @kept between had same =>
      cases first.session between had with
      | started owner fingerprint =>
        exact .started (same.ownerRunId.trans owner) (same.configFingerprint.trans fingerprint)
      | adopted handed => exact .adopted (same.ownerRunId ▸ handed)
      | kept before same' =>
        exact .kept before ⟨same.sessionId.trans same'.sessionId,
          same.ownerRunId.trans same'.ownerRunId,
          same.configFingerprint.trans same'.configFingerprint⟩

/-- The session is mapped without a change of its identity. -/
theorem KeepsOwner.of_map {update : SessionContext → SessionContext}
    (runId : next.runId = controller.runId)
    (configFingerprint : next.configFingerprint = controller.configFingerprint)
    (session : next.session = controller.session.map update)
    (keeps : ∀ before : SessionContext, before.SameOwner (update before)) : KeepsOwner adopting controller next := by
  refine ⟨runId, configFingerprint, fun after held => ?_⟩
  rw [session] at held
  obtain ⟨before, had, rfl⟩ := Option.map_eq_some_iff.mp held
  exact .kept had (keeps before)

theorem SameDecided.keepsOwner (same : SameDecided controller next) :
    KeepsOwner adopting controller next :=
  .of_same same.runId same.configFingerprint same.session

theorem unlocked_keepsOwner (controller : ZoneController) :
    KeepsOwner adopting controller { controller with locked := none } :=
  .of_same rfl rfl rfl

theorem afterApply_keepsOwner (applier : Applier) (raised : Bool) :
    KeepsOwner adopting controller (controller.afterApply applier raised) := by
  unfold afterApply
  cases applier with
  | event | slot | refusal => exact .of_same rfl rfl rfl
  | offOperation operation =>
    simp only
    split
    · exact .of_same rfl rfl rfl
    · split <;> exact .of_same rfl rfl rfl
  | confirmation => cases raised <;> exact .of_same rfl rfl rfl

/-- What a decision leaves as the session of a controller that shows it as it is. -/
theorem origin_of_decided {input : TransitionInput} {decision : Decision}
    (minted : input.newSessionIdentity =
      some ⟨sessionId, controller.runId, controller.configFingerprint⟩)
    (fed : input.session = controller.session)
    (decided : StateMachine.decide input = .ok decision) {session : SessionContext}
    (left : decision.session.or controller.session = some session) :
    SessionOrigin input.event.adopts controller session := by
  cases changed : decision.session with
  | none =>
    rw [changed, Option.none_or] at left
    exact .kept left ⟨rfl, rfl, rfl⟩
  | some after =>
    rw [changed, Option.some_or] at left
    obtain rfl := Option.some.inj left
    rcases StateMachine.decide_owner decided changed with
      ⟨identity, minted', owner, fingerprint⟩ | handed | ⟨before, held, same⟩
    · obtain rfl := Option.some.inj (minted.symm.trans minted')
      exact .started owner fingerprint
    · exact .adopted handed
    · exact .kept (fed ▸ held) same

theorem decideAndApply_keepsOwner (event : ControllerEvent) (applier : Applier)
    (handed : event.adopts = adopting) :
    KeepsOwner adopting controller (controller.decideAndApply shared event applier sessionId) := by
  have rolled := controller.rollDaily_sameDecided shared.calendar shared.now
  rcases controller.decideAndApply_cases shared event applier sessionId with
    ⟨raised, applied⟩ | ⟨decision, -, ⟨decided, -⟩, applied⟩
  · rw [applied]
    exact rolled.keepsOwner.trans (afterApply_keepsOwner applier raised)
  · rw [applied]
    refine rolled.keepsOwner.trans ?_
    generalize controller.rollDaily shared.calendar shared.now = rolled at decided ⊢
    have prelude := rolled.applyPrelude_sameDecided shared decision
      (rolled.buildInput shared event sessionId)
    refine ⟨prelude.runId, prelude.configFingerprint, fun session held => ?_⟩
    have left : (rolled.adopt decision).session = some session := prelude.session ▸ held
    simp only [adopt] at left
    split at left
    · cases left
    · exact handed ▸ origin_of_decided rfl rfl decided left

theorem beginOffOperation_keepsOwner (requestedFor : Option PulseId) :
    KeepsOwner adopting controller (controller.beginOffOperation requestedFor) := by
  unfold beginOffOperation
  split <;> exact .of_same rfl rfl rfl

theorem setOffPhase_keepsOwner (operation : Nat) (phase : OffPhase) :
    KeepsOwner adopting controller (controller.setOffPhase operation phase) :=
  .of_same rfl rfl rfl

theorem ensureOffOperation_keepsOwner (requestedFor : Option PulseId) (compensating : Bool) :
    KeepsOwner adopting controller (controller.ensureOffOperation requestedFor compensating) := by
  unfold ensureOffOperation beginOffOperation
  simp only
  split <;> exact .of_same rfl rfl rfl

theorem markEstimated_keepsOwner {session : SessionContext}
    (held : controller.session = some session) :
    KeepsOwner adopting controller (controller.markEstimated session) := by
  unfold markEstimated
  split
  · exact .refl _
  · refine ⟨rfl, rfl, fun after left => ?_⟩
    obtain rfl := Option.some.inj left
    exact .kept held ⟨rfl, rfl, rfl⟩

theorem compensationEvent_adopts (now : Instant) (session : SessionContext)
    (configurationChanged serviceFailed : Bool) :
    (controller.compensationEvent now session configurationChanged serviceFailed).adopts = none := by
  unfold compensationEvent
  split
  · rfl
  · split
    · rfl
    · split
      · split
        · rfl
        · split <;> rfl
      · rfl

theorem commitOnCompensationNow_keepsOwner (configurationChanged serviceFailed : Bool) :
    KeepsOwner none controller
      (controller.commitOnCompensationNow shared configurationChanged serviceFailed).1 := by
  unfold commitOnCompensationNow
  cases held : controller.session with
  | none => exact .refl _
  | some session =>
    have rolled := (@markEstimated_keepsOwner none controller session held).trans
      ((controller.markEstimated session).rollDaily_sameDecided shared.calendar
        shared.now).keepsOwner
    have silent := @compensationEvent_adopts controller shared.now session configurationChanged
      serviceFailed
    simp only
    generalize (controller.markEstimated session).rollDaily shared.calendar shared.now = marked
      at rolled ⊢
    split
    · exact rolled
    · rename_i decision decided
      split
      · exact rolled
      · refine rolled.trans ⟨?_, ?_, fun after left => ?_⟩
        · unfold adoptNow
          simp only
          split <;> rfl
        · unfold adoptNow
          simp only
          split <;> rfl
        · have adopted : decision.session.or marked.session = some after := by
            unfold adoptNow at left
            simp only at left
            split at left <;> exact left
          have origin := origin_of_decided rfl rfl decided adopted
          rwa [show (marked.buildInput shared (controller.compensationEvent shared.now session
            configurationChanged serviceFailed) "").event.adopts = none from silent] at origin

theorem compensate_keepsOwner (configurationChanged serviceFailed : Bool) :
    KeepsOwner none controller
      (controller.compensate shared configurationChanged serviceFailed) := by
  have committed := @commitOnCompensationNow_keepsOwner controller shared configurationChanged
    serviceFailed
  simp only [compensate]
  split
  · exact committed.trans (.of_same rfl rfl rfl)
  · exact committed.trans (ensureOffOperation_keepsOwner _ _)

theorem handlePersistFailure_keepsOwner :
    KeepsOwner adopting controller controller.handlePersistFailure := by
  unfold handlePersistFailure
  simp only
  split <;> exact .of_map rfl rfl rfl fun _ => ⟨rfl, rfl, rfl⟩

theorem recordPossibleCommand_keepsOwner (marker : InFlightOn) :
    KeepsOwner adopting controller (controller.recordPossibleCommand marker) := by
  refine .of_map rfl rfl rfl fun before => ?_
  split <;> exact ⟨rfl, rfl, rfl⟩

theorem applyAction_keepsOwner (action : Action) (saved : Bool) :
    KeepsOwner adopting controller (controller.applyAction shared action saved).1.1 := by
  cases action with
  | persistState tag =>
    have rolled := controller.rollDaily_sameDecided shared.calendar shared.now
    simp only [applyAction]
    split <;> exact rolled.keepsOwner
  | requestSlot =>
    simp only [applyAction, ensureSlotRequest]
    split <;> exact .of_same rfl rfl rfl
  | _ => exact .of_same rfl rfl rfl

theorem act_keepsOwner {saved : Bool} {decision : Decision} {input : TransitionInput}
    {applier : Applier} (rest : List Action) :
    KeepsOwner adopting controller
      (controller.act shared saved decision input applier rest).1 := by
  cases rest with
  | nil =>
    have finished : KeepsOwner adopting controller controller.applyFinish := by
      unfold applyFinish
      split <;> exact .of_same rfl rfl rfl
    exact finished.trans (afterApply_keepsOwner applier false)
  | cons action rest =>
    have acted := @applyAction_keepsOwner adopting controller shared action saved
    simp only [act]
    generalize controller.applyAction shared action saved = result at acted ⊢
    obtain ⟨⟨acting, shared'⟩, raised⟩ := result
    cases raised with
    | none => exact acted.trans (by cases action <;> exact .of_same rfl rfl rfl)
    | some err =>
      cases err with
      | storeWriteVerification _ =>
        exact acted.trans (handlePersistFailure_keepsOwner.trans (afterApply_keepsOwner _ _))
      | _ => exact acted.trans (afterApply_keepsOwner applier true)

/-! ## Steps -/

theorem gate_keepsOwner (authority : OnAuthority) :
    KeepsOwner none controller (controller.gate shared authority sessionId) := by
  have refused : ∀ (base : ZoneController) (event : ControllerEvent), event.adopts = none →
      KeepsOwner none controller base →
      KeepsOwner none controller (base.decideAndApply shared event .refusal sessionId) :=
    fun base event silent kept => kept.trans (decideAndApply_keepsOwner event .refusal silent)
  have refusalEvent : ∀ (base : ZoneController) (authorization : OnAuthorization),
      (base.finalGateRefusalEvent shared.now authorization).adopts = none := by
    intro base authorization
    unfold finalGateRefusalEvent
    repeat' split
    all_goals rfl
  unfold gate
  split
  · exact .of_same rfl rfl rfl
  · split
    · exact .of_same rfl rfl rfl
    · simp only
      split
      · exact refused _ _ rfl (.of_same rfl rfl rfl)
      · split
        · exact .of_same rfl rfl rfl
        · refine refused _ _ (refusalEvent _ _) ?_
          unfold quiesceIf
          split <;> exact .of_same rfl rfl rfl

theorem recheckOn_keepsOwner {marker : InFlightOn} {authority : OnAuthority} {serviceFailed : Bool}
    {continued : ZoneController → ZoneController}
    (goesOn : KeepsOwner none controller (continued controller)) :
    KeepsOwner none controller
      (controller.recheckOn shared marker authority serviceFailed continued) := by
  unfold recheckOn
  simp only
  split
  · refine KeepsOwner.trans ?_ (compensate_keepsOwner _ _)
    unfold quiesceIf
    split <;> exact .of_same rfl rfl rfl
  · exact goesOn

theorem anchor_keepsOwner (saved : Bool) :
    KeepsOwner none controller (controller.anchor shared saved).1 := by
  have rolled := @SameDecided.keepsOwner none _ _
    (controller.rollDaily_sameDecided shared.calendar shared.now)
  simp only [anchor]
  split
  · exact rolled.trans (.of_same rfl rfl rfl)
  · exact rolled.trans ((unlocked_keepsOwner _).trans
      (handlePersistFailure_keepsOwner.trans (compensate_keepsOwner _ _)))
  · exact rolled.trans (.of_same rfl rfl rfl)

theorem sessionStep_keepsOwner
    (stepped : controller.sessionStep shared label sessionId = some (next, shared')) :
    KeepsOwner none controller next := by
  unfold sessionStep at stepped
  split at stepped
  · obtain ⟨woken, wakes, same⟩ := Option.map_eq_some_iff.mp stepped
    obtain ⟨rfl, -⟩ := Prod.mk.inj same
    unfold wake at wakes
    split at wakes
    · obtain rfl := Option.some.inj wakes
      exact .of_same rfl rfl rfl
    · split at wakes
      · obtain rfl := Option.some.inj wakes
        exact ensureOffOperation_keepsOwner _ _
      · split at wakes
        · obtain rfl := Option.some.inj wakes
          exact .of_same rfl rfl rfl
        · cases wakes
  · obtain ⟨rfl, -⟩ := Prod.mk.inj (Option.some.inj stepped)
    exact gate_keepsOwner _
  · obtain ⟨rfl, -⟩ := Prod.mk.inj (Option.some.inj stepped)
    exact (recordPossibleCommand_keepsOwner _).trans
      (recheckOn_keepsOwner (.of_same rfl rfl rfl))
  · obtain ⟨rfl, -⟩ := Prod.mk.inj (Option.some.inj stepped)
    exact recheckOn_keepsOwner (.of_same rfl rfl rfl)
  · rename_i saved _ _
    have kept := @anchor_keepsOwner controller shared saved
    rwa [show controller.anchor shared saved = (next, shared') from Option.some.inj stepped] at kept
  · obtain ⟨rfl, -⟩ := Prod.mk.inj (Option.some.inj stepped)
    refine (unlocked_keepsOwner controller).trans (recheckOn_keepsOwner ?_)
    unfold afterRecheck
    split
    · exact decideAndApply_keepsOwner _ _ rfl
    · exact .of_same rfl rfl rfl
  · split at stepped
    · obtain ⟨rfl, -⟩ := Prod.mk.inj (Option.some.inj stepped)
      exact .of_same rfl rfl rfl
    · cases stepped
  · cases stepped

theorem handled_adopts {change : ActuatorChange} {active : Bool} {event : ControllerEvent}
    (handled : controller.handleChange change = .decided event ∨
      controller.handleProvenOff change active = .decided event) : event.adopts = none := by
  rcases handled with handled | handled
  · unfold handleChange at handled
    repeat' split at handled
    all_goals first
      | (obtain rfl := ChangeHandling.decided.inj handled; rfl)
      | cases handled
  · unfold handleProvenOff at handled
    split at handled
    · cases handled
    · obtain rfl := ChangeHandling.decided.inj handled
      rfl

theorem taken_keepsOwner (controller : ZoneController) (rest : List ActuatorChange) :
    KeepsOwner adopting controller { controller with actuatorChanges := rest } :=
  .of_same rfl rfl rfl

theorem actuatorStep_keepsOwner
    (stepped : controller.actuatorStep shared label sessionId = some (next, shared')) :
    KeepsOwner none controller next := by
  unfold actuatorStep at stepped
  split at stepped
  · obtain ⟨rfl, -⟩ := Prod.mk.inj (Option.some.inj stepped)
    exact .of_same rfl rfl rfl
  · split at stepped
    · cases stepped
    · simp only at stepped
      split at stepped
      · obtain ⟨rfl, -⟩ := Prod.mk.inj (Option.some.inj stepped)
        exact .of_same rfl rfl rfl
      · rename_i handled
        obtain ⟨rfl, -⟩ := Prod.mk.inj (Option.some.inj stepped)
        exact (taken_keepsOwner controller _).trans
          (decideAndApply_keepsOwner _ _ (@handled_adopts _ _ false _ (.inl handled)))
      · obtain ⟨rfl, -⟩ := Prod.mk.inj (Option.some.inj stepped)
        exact .of_same rfl rfl rfl
  · split at stepped
    · obtain ⟨rfl, -⟩ := Prod.mk.inj (Option.some.inj stepped)
      exact .of_same rfl rfl rfl
    · simp only at stepped
      split at stepped
      · rename_i handled
        obtain ⟨rfl, -⟩ := Prod.mk.inj (Option.some.inj stepped)
        exact (unlocked_keepsOwner controller).trans
          (decideAndApply_keepsOwner _ _ (handled_adopts (.inr handled)))
      · obtain ⟨rfl, -⟩ := Prod.mk.inj (Option.some.inj stepped)
        exact .of_same rfl rfl rfl
  · cases stepped

theorem slotStep_keepsOwner
    (stepped : controller.slotStep shared label sessionId = some (next, shared')) :
    KeepsOwner none controller next := by
  unfold slotStep at stepped
  split at stepped
  · obtain ⟨rfl, -⟩ := Prod.mk.inj (Option.some.inj stepped)
    exact .of_same rfl rfl rfl
  · split at stepped
    · split at stepped <;>
      · obtain ⟨rfl, -⟩ := Prod.mk.inj (Option.some.inj stepped)
        exact .of_same rfl rfl rfl
    · cases stepped
  · split at stepped
    · obtain ⟨rfl, -⟩ := Prod.mk.inj (Option.some.inj stepped)
      refine decideAndApply_keepsOwner _ _ ?_
      unfold offeredEvent
      split <;> rfl
    · cases stepped
  · obtain ⟨rfl, -⟩ := Prod.mk.inj (Option.some.inj stepped)
    exact .of_same rfl rfl rfl
  · cases stepped

theorem offStep_keepsOwner (stepped : controller.offStep shared label sessionId = some next) :
    KeepsOwner none controller next := by
  unfold offStep at stepped
  split at stepped
  · split at stepped
    · obtain rfl := Option.some.inj stepped
      unfold offServiceReturned
      simp only
      split <;> exact .of_same rfl rfl rfl
    · cases stepped
  · split at stepped
    · obtain rfl := Option.some.inj stepped
      unfold offProofEnded
      split <;> exact .of_same rfl rfl rfl
    · cases stepped
  · split at stepped
    · obtain rfl := Option.some.inj stepped
      exact .of_same rfl rfl rfl
    · obtain rfl := Option.some.inj stepped
      exact .of_same rfl rfl rfl
    · cases stepped
  · split at stepped
    · split at stepped
      · obtain rfl := Option.some.inj stepped
        refine (setOffPhase_keepsOwner _ _).trans (decideAndApply_keepsOwner _ _ ?_)
        split <;> rfl
      · obtain rfl := Option.some.inj stepped
        exact decideAndApply_keepsOwner _ _ rfl
      · cases stepped
    · cases stepped
  · cases stepped

theorem toggled_keepsOwner (controller : ZoneController) (enabled : Bool) :
    KeepsOwner adopting controller { controller with enabled := enabled } :=
  .of_same rfl rfl rfl

theorem observed_keepsOwner (controller : ZoneController) (observation : MoistureObservation) :
    KeepsOwner adopting controller { controller with observation := observation } :=
  .of_same rfl rfl rfl

theorem step_keepsOwner
    (stepped : controller.step shared label sessionId = some (next, shared')) :
    KeepsOwner label.adopts controller next := by
  cases label with
  | dispatch event =>
    simp only [step] at stepped
    split at stepped
    · obtain ⟨rfl, -⟩ := Prod.mk.inj (Option.some.inj stepped)
      exact decideAndApply_keepsOwner event .event rfl
    · cases stepped
  | setEnabled enabled =>
    simp only [step] at stepped
    split at stepped
    · obtain ⟨rfl, -⟩ := Prod.mk.inj (Option.some.inj stepped)
      exact (toggled_keepsOwner controller enabled).trans
        (decideAndApply_keepsOwner _ _ (by cases enabled <;> rfl))
    · cases stepped
  | moisture observation =>
    simp only [step] at stepped
    split at stepped
    · split at stepped
      · obtain ⟨rfl, -⟩ := Prod.mk.inj (Option.some.inj stepped)
        exact (observed_keepsOwner controller observation).trans
          (decideAndApply_keepsOwner _ _ rfl)
      · obtain ⟨rfl, -⟩ := Prod.mk.inj (Option.some.inj stepped)
        exact .of_same rfl rfl rfl
    · cases stepped
  | act saved =>
    simp only [step] at stepped
    split at stepped
    · rename_i decision input rest applier locked
      have kept := @act_keepsOwner none controller shared saved decision input applier rest
      rwa [show controller.act shared saved decision input applier rest = (next, shared') from
        Option.some.inj stepped] at kept
    · cases stepped
  | actuatorEvent | actuatorChange | provingOff =>
    simp only [step] at stepped
    exact actuatorStep_keepsOwner stepped
  | slotRequest | slotResume | slotOffer | slotCancelled =>
    simp only [step] at stepped
    exact slotStep_keepsOwner stepped
  | wake | gate | serviceReturned | reenter | anchor | recheck | offJoined =>
    simp only [step] at stepped
    exact sessionStep_keepsOwner stepped
  | offServiceReturned | offProofEnded | offAborted | offDispatch =>
    simp only [step] at stepped
    obtain ⟨moved, moves, same⟩ := Option.map_eq_some_iff.mp stepped
    obtain ⟨rfl, -⟩ := Prod.mk.inj same
    exact offStep_keepsOwner moves
  | ensureOff =>
    obtain ⟨rfl, -⟩ := Prod.mk.inj (Option.some.inj stepped)
    exact beginOffOperation_keepsOwner _
  | quiesce | updateOwnership =>
    obtain ⟨rfl, -⟩ := Prod.mk.inj (Option.some.inj stepped)
    exact .of_same rfl rfl rfl

end ZoneController

end MoistureLoop
