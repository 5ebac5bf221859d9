import MoistureLoop.Controller.Shared

/-! # A controller simulates its zone

Every step of a controller is, on its decided state, a sequence of steps of a zone.  What
holds in every state a zone can reach therefore holds of the controllers of an entry. -/

open MoistureLoop.Action

namespace MoistureLoop

/-- Some steps lead from one zone to another. -/
def Zone.Reaches (start finish : Zone) : Prop :=
  Zone.system.Run (fun _ _ _ => True) start finish

theorem Zone.Reaches.refl (zone : Zone) : zone.Reaches zone := LabelledSystem.Run.refl

theorem Zone.Reaches.step {start zone next : Zone} {label : ZoneLabel}
    (reached : start.Reaches zone) (stepped : zone.step label = some next) :
    start.Reaches next :=
  LabelledSystem.Run.step label reached stepped trivial

theorem Zone.Reaches.trans {first second third : Zone} (left : first.Reaches second)
    (right : second.Reaches third) : first.Reaches third := by
  induction right with
  | refl => exact left
  | step label _ stepped _ reached => exact reached.step stepped

namespace ZoneController

/-- The decided state of the controller. -/
def zone (controller : ZoneController) : Zone where
  state := controller.state
  enabled := controller.enabled
  session := controller.session
  activeFault := controller.activeFault
  secondaryFault := controller.secondaryFault

variable {controller next : ZoneController} {shared shared' : SharedState} {start : Zone}
  {label : ControllerLabel} {sessionId : String}

theorem Quiet.zone_eq (quiet : Quiet controller next) : next.zone = controller.zone := by
  simp [zone, quiet.state, quiet.enabled, quiet.session, quiet.activeFault,
    quiet.secondaryFault]

theorem buildInput_feeds (controller : ZoneController) (shared : SharedState)
    (event : ControllerEvent) (sessionId : String) :
    controller.zone.Feeds (controller.buildInput shared event sessionId) :=
  ⟨rfl, rfl, rfl, rfl, rfl⟩

/-! ## Pieces that keep the zone -/

theorem afterApply_zone (applier : Applier) (raised : Bool) :
    (controller.afterApply applier raised).zone = controller.zone := by
  unfold afterApply
  cases applier with
  | event | slot | refusal => rfl
  | offOperation operation =>
    simp only
    split
    · rfl
    · split <;> rfl
  | confirmation => cases raised <;> rfl

theorem applyFinish_zone : controller.applyFinish.zone = controller.zone := by
  unfold applyFinish
  split <;> rfl

theorem applyAction_zone (action : Action) (saved : Bool) :
    (controller.applyAction shared action saved).1.1.zone = controller.zone := by
  cases action with
  | persistState tag =>
    have same := (controller.rollDaily_quiet shared.calendar shared.now).zone_eq
    simp only [applyAction]
    split <;> exact same
  | requestSlot =>
    simp only [applyAction, ensureSlotRequest]
    split <;> rfl
  | _ => rfl

theorem noteRequest_zone (action : Action) (input : TransitionInput) :
    (controller.noteRequest action input).zone = controller.zone := by
  cases action <;> rfl

theorem beginOffOperation_zone (requestedFor : Option PulseId) :
    (controller.beginOffOperation requestedFor).zone = controller.zone := by
  unfold beginOffOperation
  split <;> rfl

theorem ensureOffOperation_zone (requestedFor : Option PulseId) (compensating : Bool) :
    (controller.ensureOffOperation requestedFor compensating).zone = controller.zone :=
  @beginOffOperation_zone { controller with offRequested := false } requestedFor

/-! ## Pieces that move the zone -/

theorem adopt_zone (controller : ZoneController) (decision : Decision) :
    (controller.adopt decision).zone = controller.zone.adopt decision := rfl

theorem SameDecided.zone_eq (same : SameDecided controller next) :
    next.zone = controller.zone := by
  simp [zone, same.state, same.enabled, same.session, same.activeFault, same.secondaryFault]

/-- Up to its first action, an application adopts its decision. -/
theorem applyPrelude_zone (decision : Decision) (input : TransitionInput) :
    (controller.applyPrelude shared decision input).zone = controller.zone.adopt decision := by
  have same := controller.applyPrelude_sameDecided shared decision input
  exact same.zone_eq.trans (controller.adopt_zone decision)

/-- Deciding an event and adopting the decision is one step of the zone. -/
theorem decideAndApply_zone (event : ControllerEvent) (applier : Applier) :
    (controller.decideAndApply shared event applier sessionId).zone =
      controller.zone.decideWith ((controller.rollDaily shared.calendar shared.now).buildInput
        shared event sessionId) Zone.adopt := by
  have rolled := (controller.rollDaily_quiet shared.calendar shared.now).zone_eq
  simp only [decideAndApply, Zone.decideWith]
  cases StateMachine.decide ((controller.rollDaily shared.calendar shared.now).buildInput shared
    event sessionId) with
  | error err => exact (afterApply_zone applier true).trans rolled
  | ok decision =>
    simp only
    split
    · exact (afterApply_zone applier false).trans rolled
    · exact (applyPrelude_zone _ _).trans (by rw [rolled])

theorem handlePersistFailure_zone :
    controller.handlePersistFailure.zone = controller.zone.failWrite := by
  unfold handlePersistFailure
  simp only
  split <;> rfl

theorem compensationEvent_compensates (now : Instant) (session : SessionContext)
    (configurationChanged serviceFailed : Bool) :
    (controller.compensationEvent now session configurationChanged serviceFailed).compensates
      session.mode = true := by
  unfold compensationEvent
  split
  · rfl
  · split
    · rfl
    · split
      · rename_i auto _
        split
        · rfl
        · split
          · simp [ControllerEvent.compensates, auto]
          · rfl
      · rfl

theorem adoptNow_zone (decision : Decision) :
    (controller.adoptNow decision).zone = controller.zone.commit decision := by
  unfold adoptNow
  simp only
  split <;> rfl

theorem markEstimated_zone {session : SessionContext} (held : controller.session = some session) :
    (controller.markEstimated session).zone = controller.zone.markEstimated := by
  unfold markEstimated
  split <;> rename_i estimated <;> simp [zone, Zone.markEstimated, held, estimated]

/-- A compensation is one step of the zone, if there is a session to compensate. -/
theorem commitOnCompensationNow_zone {session : SessionContext}
    (held : controller.session = some session) (configurationChanged serviceFailed : Bool) :
    let rolled := (controller.markEstimated session).rollDaily shared.calendar shared.now
    (controller.commitOnCompensationNow shared configurationChanged serviceFailed).1.zone =
      controller.zone.markEstimated.decideWith
        (rolled.buildInput shared (controller.compensationEvent shared.now session
          configurationChanged serviceFailed) "") Zone.commit := by
  have rolled := ((controller.markEstimated session).rollDaily_quiet shared.calendar
    shared.now).zone_eq.trans (markEstimated_zone held)
  simp only [commitOnCompensationNow, held, Zone.decideWith]
  cases StateMachine.decide (((controller.markEstimated session).rollDaily shared.calendar
    shared.now).buildInput shared (controller.compensationEvent shared.now session
      configurationChanged serviceFailed) "") with
  | error err => exact rolled
  | ok decision =>
    simp only
    split
    · exact rolled
    · exact (adoptNow_zone decision).trans (by rw [rolled])

theorem reaches_compensate (reached : start.Reaches controller.zone)
    (configurationChanged serviceFailed : Bool) :
    start.Reaches (controller.compensate shared configurationChanged serviceFailed).zone := by
  have committed : start.Reaches
      (controller.commitOnCompensationNow shared configurationChanged serviceFailed).1.zone := by
    cases held : controller.session with
    | none => simpa [commitOnCompensationNow, held] using reached
    | some session =>
      rw [commitOnCompensationNow_zone held]
      have rolled := ((controller.markEstimated session).rollDaily_quiet shared.calendar
        shared.now).zone_eq.trans (markEstimated_zone held)
      have feeds := buildInput_feeds
        ((controller.markEstimated session).rollDaily shared.calendar shared.now) shared
        (controller.compensationEvent shared.now session configurationChanged serviceFailed) ""
      rw [rolled] at feeds
      have loses := @compensationEvent_compensates controller shared.now session
        configurationChanged serviceFailed
      have compensates : ∀ input, controller.zone.markEstimated.Feeds input →
          input.event.compensates session.mode = true →
          controller.zone.step (.compensate input) =
            some (controller.zone.markEstimated.decideWith input Zone.commit) := by
        intro input feeds loses
        simp only [Zone.step, show controller.zone.session = some session from held]
        exact if_pos ⟨feeds, loses⟩
      exact reached.step (compensates _ feeds loses)
  simp only [compensate]
  split
  · exact committed
  · exact (ensureOffOperation_zone _ _).symm ▸ committed

/-- Deciding an event that no request for the flag brings, or one that it has set. -/
theorem reaches_decideAndApply (reached : start.Reaches controller.zone)
    {event : ControllerEvent} {applier : Applier}
    (toggled : event.isToggle = true → event = toggleEvent controller.enabled) :
    start.Reaches (controller.decideAndApply shared event applier sessionId).zone := by
  rw [decideAndApply_zone]
  have rolled := (controller.rollDaily_quiet shared.calendar shared.now).zone_eq
  have feeds := buildInput_feeds (controller.rollDaily shared.calendar shared.now) shared event
    sessionId
  rw [rolled] at feeds
  by_cases toggle : event.isToggle = true
  · exact reached.step (show controller.zone.step (.setEnabled controller.enabled _) = _ from
      if_pos ⟨feeds, toggled toggle⟩)
  · exact reached.step (show controller.zone.step (.decide _) = _ from
      if_pos ⟨feeds, eq_false_of_ne_true toggle⟩)

/-! ## Steps -/

theorem reaches_closed (start : Zone) :
    Closed (fun controller => start.Reaches controller.zone) (fun _ => True) (fun _ => True)
      (fun _ => True) fun _ _ => True where
  stable _ _ _ _ := trivial
  quiet reached quiet := quiet.zone_eq ▸ reached
  released reached _ := reached
  took reached _ _ := reached
  observed _ _ _ reached _ := reached
  taken reached _ := reached
  proving _ reached _ _ _ := reached
  proven {controller _ _ _} _ reached _ _ :=
    reaches_decideAndApply
      (show start.Reaches ({ controller with locked := none } : ZoneController).zone from reached)
      (by simp [ControllerEvent.isToggle])
  offReturned {controller shared operation left} reading reached _ _ := by
    have same : (controller.offServiceReturned shared.now operation left reading).zone =
        controller.zone := by
      unfold offServiceReturned
      simp only
      split <;> rfl
    exact same ▸ reached
  offEnded {controller shared operation left} reached _ _ := by
    have same : (controller.offProofEnded shared.now operation left).zone = controller.zone := by
      unfold offProofEnded
      split <;> rfl
    exact same ▸ reached
  offAborted reached _ _ := reached
  offSettled {controller _ operation confirmedAt} _ reached _ _ _ :=
    reaches_decideAndApply
      (show start.Reaches (controller.setOffPhase operation (.dispatching confirmedAt)).zone from
        reached)
      (by cases confirmedAt <;> simp [ControllerEvent.isToggle])
  offRecovered _ reached _ _ _ := reaches_decideAndApply reached (by simp [ControllerEvent.isToggle])
  decided _ reached _ _ _ toggled _ _ _ := reaches_decideAndApply reached toggled
  dispatched _ reached _ _ _ _ _ := reached
  compensated _ configurationChanged serviceFailed reached _ :=
    reaches_compensate reached configurationChanged serviceFailed
  ensured reached _ := (ensureOffOperation_zone _ _).symm ▸ reached
  begun reached := (beginOffOperation_zone _).symm ▸ reached
  recorded {controller} marker reached :=
    reached.step (show controller.zone.step
      (.commanded marker.sessionId marker.dispatchedAtUtc) = _ from rfl)
  failed {controller} reached _ :=
    reached.step (show controller.zone.step .writeFailed = _ from
      congrArg some handlePersistFailure_zone.symm)

theorem reaches_act (reached : start.Reaches controller.zone) {saved : Bool}
    {decision : Decision} {input : TransitionInput} {applier : Applier} (rest : List Action) :
    start.Reaches (controller.act shared saved decision input applier rest).1.zone := by
  cases rest with
  | nil =>
    simp only [act, afterApply_zone, applyFinish_zone]
    exact reached
  | cons action rest =>
    have acted := @applyAction_zone controller shared action saved
    simp only [act]
    generalize controller.applyAction shared action saved = result at acted ⊢
    obtain ⟨⟨acting, shared'⟩, raised⟩ := result
    cases raised with
    | none => exact (Eq.trans (@noteRequest_zone acting action input) acted) ▸ reached
    | some err =>
      have ended : start.Reaches (acting.afterApply applier true).zone := by
        rw [afterApply_zone, acted]
        exact reached
      cases err with
      | storeWriteVerification _ =>
        simp only [afterApply_zone, handlePersistFailure_zone, acted]
        exact reached.step (show controller.zone.step .writeFailed = _ from rfl)
      | _ => exact ended

theorem step_reaches (stepped : controller.step shared label sessionId = some (next, shared')) :
    controller.zone.Reaches next.zone := by
  by_cases toggle : ∃ enabled, label = .setEnabled enabled
  · obtain ⟨enabled, rfl⟩ := toggle
    simp only [step] at stepped
    split at stepped
    · obtain ⟨rfl, -⟩ := Prod.mk.inj (Option.some.inj stepped)
      rw [decideAndApply_zone]
      have rolled := ({ controller with enabled := enabled }.rollDaily_quiet shared.calendar
        shared.now).zone_eq
      have feeds := buildInput_feeds
        ({ controller with enabled := enabled }.rollDaily shared.calendar shared.now) shared
        (toggleEvent enabled) sessionId
      rw [rolled] at feeds
      exact (Zone.Reaches.refl _).step (show controller.zone.step (.setEnabled enabled _) = _ from
        if_pos ⟨feeds, rfl⟩)
    · cases stepped
  · refine (reaches_closed controller.zone).step trivial (.refl _) ?_ (.inr ?_)
      (fun _ _ => trivial) (fun _ _ _ _ _ => trivial) (fun _ => trivial)
      (fun enabled same => absurd ⟨enabled, same⟩ toggle) stepped
    · exact fun saved decision input rest applier _ _ => reaches_act (.refl _) rest
    · exact fun _ configurationChanged serviceFailed reached =>
        reaches_compensate reached configurationChanged serviceFailed

end ZoneController

namespace Entry

variable {κ : Type} [DecidableEq κ] {entry next start finish : Entry κ} {label : EntryLabel κ}

theorem step_reaches (stepped : entry.step label = some next) (key : κ) :
    (entry.controllers key).zone.Reaches (next.controllers key).zone := by
  rcases step_cases stepped with
    ⟨acting, label', sessionId, controller, shared, -, moved, rfl⟩ | moved
  · by_cases same : key = acting
    · subst same
      simpa using ZoneController.step_reaches moved
    · simpa [Function.update_of_ne same] using Zone.Reaches.refl _
  · rw [moved.controllers]
    exact .refl _

theorem zone_reaches {guard : Entry κ → EntryLabel κ → Entry κ → Prop}
    (reached : system.Run guard start finish) (key : κ) :
    (start.controllers key).zone.Reaches (finish.controllers key).zone := by
  induction reached with
  | refl => exact .refl _
  | step label _ stepped _ reaches => exact reaches.trans (step_reaches stepped key)

end Entry

end MoistureLoop
