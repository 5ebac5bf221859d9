import MoistureLoop.Controller.Authority
import MoistureLoop.Controller.PulseExact
import MoistureLoop.Controller.Termination

/-! # One ON command for each TurnOn

A TurnOn only sets a flag.  The session-owner task takes the flag, waits for the lock and
waters whatever session it finds there.  This is one ON command for each TurnOn as long as no
next TurnOn is executed between taking the flag and reading the session, and no flag of an
earlier pulse is left to a start that fails before its own TurnOn.  What the command rests on
is verified in every case. -/

open MoistureLoop.Action

namespace MoistureLoop

namespace ZoneController

/-! ## Requests of ON -/

/-- ON is requested, or the task that took the request waits for the lock. -/
def awaitsOn (controller : ZoneController) : Bool :=
  controller.onRequested || decide (controller.sessionTask = some .acquiring)

/-- `next` requests no ON that `controller` does not request. -/
structure AsksNoMore (controller next : ZoneController) : Prop where
  requested : next.onRequested = true → controller.onRequested = true
  acquiring : next.sessionTask = some .acquiring → controller.sessionTask = some .acquiring

variable {controller next : ZoneController} {shared shared' : SharedState}
  {label : ControllerLabel} {sessionId : String}

theorem AsksNoMore.trans {third : ZoneController} (left : AsksNoMore controller next)
    (right : AsksNoMore next third) : AsksNoMore controller third :=
  ⟨left.requested ∘ right.requested, left.acquiring ∘ right.acquiring⟩

theorem AsksNoMore.awaitsOn (asks : AsksNoMore controller next) (awaits : next.awaitsOn = true) :
    controller.awaitsOn = true := by
  simp only [ZoneController.awaitsOn, Bool.or_eq_true, decide_eq_true_eq] at awaits ⊢
  exact awaits.imp asks.requested asks.acquiring

theorem Frame.asksNoMore (frame : Frame controller next) : AsksNoMore controller next :=
  ⟨fun requested => frame.onRequested ▸ requested, fun task => frame.sessionTask ▸ task⟩

/-- The task is the same, or not in the gate. -/
theorem AsksNoMore.of_fields (requested : next.onRequested = controller.onRequested)
    (task : next.sessionTask = controller.sessionTask ∨ next.sessionTask ≠ some .acquiring) :
    AsksNoMore controller next := by
  refine ⟨fun asks => requested ▸ asks, fun acquiring => ?_⟩
  rcases task with same | away
  · exact same ▸ acquiring
  · exact absurd acquiring away

theorem afterApply_asksNoMore (controller : ZoneController) (applier : Applier) (raised : Bool) :
    AsksNoMore controller (controller.afterApply applier raised) := by
  cases applier with
  | event | slot => exact .of_fields rfl (.inl rfl)
  | offOperation operation =>
    simp only [afterApply]
    split
    · exact .of_fields rfl (.inl rfl)
    · split <;> exact .of_fields rfl (.inl rfl)
  | refusal => exact .of_fields rfl (.inr (by cases raised <;> simp [afterApply]))
  | confirmation =>
    cases raised with
    | true => exact .of_fields rfl (.inr (by simp [afterApply]))
    | false => exact .of_fields rfl (.inl rfl)

theorem decideAndApply_asksNoMore (controller : ZoneController) (shared : SharedState)
    (event : ControllerEvent) (applier : Applier) (sessionId : String) :
    AsksNoMore controller (controller.decideAndApply shared event applier sessionId) := by
  have rolled := (controller.rollDaily_sameDecided shared.calendar shared.now).toFrame.asksNoMore
  rcases controller.decideAndApply_cases shared event applier sessionId with
    ⟨raised, applied⟩ | ⟨decision, -, -, applied⟩
  · rw [applied]
    exact rolled.trans (afterApply_asksNoMore _ applier raised)
  · rw [applied]
    have adopted := (controller.applyPrelude_rolled shared decision
      ((controller.rollDaily shared.calendar shared.now).buildInput shared event sessionId)).1
    exact adopted.asksNoMore.trans (.of_fields rfl (.inl rfl))

theorem beginOffOperation_asksNoMore (controller : ZoneController)
    (requestedFor : Option PulseId) :
    AsksNoMore controller (controller.beginOffOperation requestedFor) := by
  unfold beginOffOperation
  split <;> exact .of_fields rfl (.inl rfl)

theorem ensureOffOperation_asksNoMore (controller : ZoneController)
    (requestedFor : Option PulseId) (compensating : Bool) :
    AsksNoMore controller (controller.ensureOffOperation requestedFor compensating) := by
  have begun := beginOffOperation_asksNoMore { controller with offRequested := false } requestedFor
  refine ⟨begun.requested, fun acquiring => ?_⟩
  obtain ⟨operation, -, impossible⟩ := Option.map_eq_some_iff.mp acquiring
  cases impossible

theorem compensate_asksNoMore (controller : ZoneController) (shared : SharedState)
    (configurationChanged serviceFailed : Bool) :
    AsksNoMore controller (controller.compensate shared configurationChanged serviceFailed) := by
  have committed := (controller.commitOnCompensationNow_spec shared configurationChanged
    serviceFailed).1.asksNoMore
  simp only [compensate]
  split
  · exact committed.trans (.of_fields rfl (.inr (by simp)))
  · exact committed.trans (ensureOffOperation_asksNoMore _ _ _)

theorem handlePersistFailure_asksNoMore (controller : ZoneController) :
    AsksNoMore controller controller.handlePersistFailure := by
  unfold handlePersistFailure
  simp only
  split
  · exact ⟨by simp, id⟩
  · refine ⟨by simp [ensureSessionTask], fun acquiring => ?_⟩
    simp only [ensureSessionTask] at acquiring
    cases task : controller.sessionTask <;> simp_all

theorem applyAction_asksNoMore {action : Action} (saved : Bool) (notOn : action ≠ turnOn) :
    AsksNoMore controller (controller.applyAction shared action saved).1.1 := by
  cases action with
  | turnOn => exact absurd rfl notOn
  | persistState tag =>
    have rolled := (controller.rollDaily_sameDecided shared.calendar shared.now).toFrame.asksNoMore
    simp only [applyAction]
    split <;> exact rolled
  | requestSlot =>
    simp only [applyAction, ensureSlotRequest]
    split <;> exact .of_fields rfl (.inl rfl)
  | _ => exact .of_fields rfl (.inl rfl)

theorem act_asksNoMore {saved : Bool} {decision : Decision} {input : TransitionInput}
    {rest : List Action} {applier : Applier} (notOn : rest.head? ≠ some turnOn) :
    AsksNoMore controller (controller.act shared saved decision input applier rest).1 := by
  cases rest with
  | nil =>
    refine AsksNoMore.trans ?_ (afterApply_asksNoMore controller.applyFinish applier false)
    unfold applyFinish
    split
    · refine ⟨id, fun acquiring => ?_⟩
      simp only [ensureSessionTask] at acquiring
      cases task : controller.sessionTask <;> simp_all
    · exact .of_fields rfl (.inl rfl)
  | cons action rest =>
    have acted := @applyAction_asksNoMore controller shared action saved (by simpa using notOn)
    simp only [act]
    generalize controller.applyAction shared action saved = result at acted ⊢
    obtain ⟨⟨acting, shared'⟩, raised⟩ := result
    cases raised with
    | none => exact acted.trans (by cases action <;> exact .of_fields rfl (.inl rfl))
    | some err =>
      cases err with
      | storeWriteVerification _ =>
        exact (acted.trans (handlePersistFailure_asksNoMore acting)).trans
          (afterApply_asksNoMore _ applier false)
      | _ => exact acted.trans (afterApply_asksNoMore acting applier true)

/-! ## The steps of the tasks -/

theorem quiesceIf_asksNoMore (controller : ZoneController) (required : Bool) :
    AsksNoMore controller (controller.quiesceIf required) := by
  unfold quiesceIf
  split <;> exact .of_fields rfl (.inl rfl)

theorem recheckOn_asksNoMore {marker : InFlightOn} {authority : OnAuthority}
    {serviceFailed : Bool} {continued : ZoneController → ZoneController}
    (goesOn : AsksNoMore controller (continued controller)) :
    AsksNoMore controller
      (controller.recheckOn shared marker authority serviceFailed continued) := by
  rcases controller.recheckOn_cases shared marker authority serviceFailed continued with
    same | ⟨required, changed, same⟩
  · rw [same]
    exact goesOn
  · rw [same]
    exact (controller.quiesceIf_asksNoMore required).trans (compensate_asksNoMore _ _ _ _)

theorem gate_asksNoMore (authority : OnAuthority) :
    AsksNoMore controller (controller.gate shared authority sessionId) := by
  have away : ∀ {after : ZoneController}, after.onRequested = controller.onRequested →
      after.sessionTask = some .refusing → ∀ event, AsksNoMore controller
        (after.decideAndApply shared event .refusal sessionId) := fun requested task event =>
    (AsksNoMore.of_fields requested (.inr (by simp [task]))).trans
      (decideAndApply_asksNoMore _ shared event .refusal sessionId)
  unfold gate
  split
  · exact .of_fields rfl (.inr (by simp))
  · split
    · exact .of_fields rfl (.inr (by simp))
    · simp only
      split
      · exact @away { controller with sessionTask := some .refusing } rfl rfl _
      · split
        · exact .of_fields rfl (.inr (by simp))
        · refine away ?_ ?_ _
          · unfold quiesceIf
            split <;> rfl
          · unfold quiesceIf
            split <;> rfl

theorem anchor_asksNoMore (saved : Bool) :
    AsksNoMore controller (controller.anchor shared saved).1 := by
  have rolled := (controller.rollDaily_sameDecided shared.calendar shared.now).toFrame.asksNoMore
  have released : AsksNoMore controller
      { controller.rollDaily shared.calendar shared.now with locked := none } :=
    rolled.trans (.of_fields rfl (.inl rfl))
  simp only [anchor]
  split
  · exact rolled.trans (.of_fields rfl (.inl rfl))
  · exact released.trans ((handlePersistFailure_asksNoMore _).trans (compensate_asksNoMore _ _ _ _))
  · exact rolled.trans (.of_fields rfl (.inr (by simp [finishOn])))

/-- The flag is taken by the step that goes to the gate; no other step of the task asks for
more. -/
theorem sessionStep_asks
    (stepped : controller.sessionStep shared label sessionId = some (next, shared')) :
    AsksNoMore controller next ∨
    controller.onRequested = true ∧
      next = { controller with onRequested := false, sessionTask := some .acquiring } := by
  unfold sessionStep at stepped
  split at stepped
  · obtain ⟨woken, step, same⟩ := Option.map_eq_some_iff.mp stepped
    obtain ⟨rfl, -⟩ := Prod.mk.inj same
    unfold wake at step
    split at step
    · rename_i requested
      exact .inr ⟨requested, (Option.some.inj step).symm⟩
    · split at step
      · obtain rfl := Option.some.inj step
        exact .inl (ensureOffOperation_asksNoMore _ _ _)
      · split at step
        · obtain rfl := Option.some.inj step
          exact .inl (.of_fields rfl (.inr (by simp)))
        · cases step
  · obtain ⟨rfl, -⟩ := Prod.mk.inj (Option.some.inj stepped)
    exact .inl (gate_asksNoMore _)
  · rename_i raised authority marker _ _
    obtain ⟨rfl, -⟩ := Prod.mk.inj (Option.some.inj stepped)
    have recorded : AsksNoMore controller (controller.recordPossibleCommand marker) :=
      .of_fields rfl (.inl rfl)
    exact .inl (recorded.trans (recheckOn_asksNoMore (.of_fields rfl (.inr (by simp)))))
  · obtain ⟨rfl, -⟩ := Prod.mk.inj (Option.some.inj stepped)
    exact .inl (recheckOn_asksNoMore (.of_fields rfl (.inr (by simp))))
  · rename_i saved _ _
    have anchored := @anchor_asksNoMore controller shared saved
    rw [show controller.anchor shared saved = (next, shared') from Option.some.inj stepped]
      at anchored
    exact .inl anchored
  · obtain ⟨rfl, -⟩ := Prod.mk.inj (Option.some.inj stepped)
    have released : AsksNoMore controller { controller with locked := none } :=
      .of_fields rfl (.inl rfl)
    refine .inl (released.trans (recheckOn_asksNoMore ?_))
    unfold afterRecheck
    split
    · exact decideAndApply_asksNoMore _ _ _ _ _
    · exact .of_fields rfl (.inr (by simp [finishOn]))
  · split at stepped
    · obtain ⟨rfl, -⟩ := Prod.mk.inj (Option.some.inj stepped)
      exact .inl (.of_fields rfl (.inr (by simp only; split <;> simp)))
    · cases stepped
  · cases stepped

theorem offStep_asksNoMore
    (stepped : controller.offStep shared label sessionId = some next) :
    AsksNoMore controller next := by
  have phased : ∀ operation phase, AsksNoMore controller (controller.setOffPhase operation phase) :=
    fun _ _ => .of_fields rfl (.inl rfl)
  cases label with
  | offServiceReturned operation reading =>
    simp only [offStep] at stepped
    split at stepped
    · obtain rfl := Option.some.inj stepped
      unfold offServiceReturned
      simp only
      split <;> exact .of_fields rfl (.inl rfl)
    · cases stepped
  | offProofEnded operation =>
    simp only [offStep] at stepped
    split at stepped
    · obtain rfl := Option.some.inj stepped
      unfold offProofEnded
      split <;> exact phased _ _
    · cases stepped
  | offAborted operation =>
    simp only [offStep] at stepped
    split at stepped
    · obtain rfl := Option.some.inj stepped
      exact phased _ _
    · obtain rfl := Option.some.inj stepped
      exact phased _ _
    · cases stepped
  | offDispatch operation =>
    simp only [offStep] at stepped
    split at stepped
    · split at stepped
      · obtain rfl := Option.some.inj stepped
        exact (phased _ _).trans (decideAndApply_asksNoMore _ _ _ _ _)
      · obtain rfl := Option.some.inj stepped
        exact decideAndApply_asksNoMore _ _ _ _ _
      · cases stepped
    · cases stepped
  | _ => cases stepped

theorem slotStep_asksNoMore
    (stepped : controller.slotStep shared label sessionId = some (next, shared')) :
    AsksNoMore controller next := by
  unfold slotStep at stepped
  split at stepped
  · obtain ⟨rfl, -⟩ := Prod.mk.inj (Option.some.inj stepped)
    exact .of_fields rfl (.inl rfl)
  · split at stepped
    · split at stepped <;> obtain ⟨rfl, -⟩ := Prod.mk.inj (Option.some.inj stepped) <;>
        exact .of_fields rfl (.inl rfl)
    · cases stepped
  · split at stepped
    · obtain ⟨rfl, -⟩ := Prod.mk.inj (Option.some.inj stepped)
      exact decideAndApply_asksNoMore _ _ _ _ _
    · cases stepped
  · obtain ⟨rfl, -⟩ := Prod.mk.inj (Option.some.inj stepped)
    exact .of_fields rfl (.inl rfl)
  · cases stepped

theorem actuatorStep_asksNoMore
    (stepped : controller.actuatorStep shared label sessionId = some (next, shared')) :
    AsksNoMore controller next := by
  unfold actuatorStep at stepped
  split at stepped
  · obtain ⟨rfl, -⟩ := Prod.mk.inj (Option.some.inj stepped)
    exact .of_fields rfl (.inl rfl)
  · split at stepped
    · cases stepped
    · rename_i change rest _
      have taken : AsksNoMore controller { controller with actuatorChanges := rest } :=
        .of_fields rfl (.inl rfl)
      simp only at stepped
      split at stepped <;> obtain ⟨rfl, -⟩ := Prod.mk.inj (Option.some.inj stepped)
      · exact taken
      · exact taken.trans (decideAndApply_asksNoMore _ _ _ _ _)
      · exact taken.trans (.of_fields rfl (.inl rfl))
  · have released : AsksNoMore controller { controller with locked := none } :=
      .of_fields rfl (.inl rfl)
    simp only at stepped
    split at stepped
    · obtain ⟨rfl, -⟩ := Prod.mk.inj (Option.some.inj stepped)
      exact released
    · split at stepped <;> obtain ⟨rfl, -⟩ := Prod.mk.inj (Option.some.inj stepped)
      · exact released.trans (decideAndApply_asksNoMore _ _ _ _ _)
      · exact released
  · cases stepped

/-- A step that executes no TurnOn requests no further ON, and passes a request on at most to
the task on its way to the gate. -/
theorem step_asks (stepped : controller.step shared label sessionId = some (next, shared'))
    (notOn : ∀ saved, label = .act saved → controller.ahead.head? ≠ some turnOn) :
    AsksNoMore controller next ∨
    controller.onRequested = true ∧
      next = { controller with onRequested := false, sessionTask := some .acquiring } := by
  cases label with
  | dispatch event =>
    simp only [ZoneController.step] at stepped
    split at stepped
    · obtain ⟨rfl, -⟩ := Prod.mk.inj (Option.some.inj stepped)
      exact .inl (decideAndApply_asksNoMore _ _ _ _ _)
    · cases stepped
  | moisture observation =>
    simp only [ZoneController.step] at stepped
    have observed : AsksNoMore controller { controller with observation := observation } :=
      .of_fields rfl (.inl rfl)
    split at stepped
    · split at stepped <;> obtain ⟨rfl, -⟩ := Prod.mk.inj (Option.some.inj stepped)
      · exact .inl (observed.trans (decideAndApply_asksNoMore _ _ _ _ _))
      · exact .inl observed
    · cases stepped
  | setEnabled enabled =>
    simp only [ZoneController.step] at stepped
    have toggled : AsksNoMore controller { controller with enabled := enabled } :=
      .of_fields rfl (.inl rfl)
    split at stepped
    · obtain ⟨rfl, -⟩ := Prod.mk.inj (Option.some.inj stepped)
      exact .inl (toggled.trans (decideAndApply_asksNoMore _ _ _ _ _))
    · cases stepped
  | act saved =>
    simp only [ZoneController.step] at stepped
    split at stepped
    · rename_i decision input rest applier locked
      have asks : AsksNoMore controller
          (controller.act shared saved decision input applier rest).1 :=
        act_asksNoMore (by simpa [ahead, locked] using notOn saved rfl)
      rw [Option.some.inj stepped] at asks
      exact .inl asks
    · cases stepped
  | actuatorEvent | actuatorChange | provingOff =>
    simp only [ZoneController.step] at stepped
    exact .inl (actuatorStep_asksNoMore stepped)
  | slotRequest | slotResume | slotOffer | slotCancelled =>
    simp only [ZoneController.step] at stepped
    exact .inl (slotStep_asksNoMore stepped)
  | wake | gate | serviceReturned | reenter | anchor | recheck | offJoined =>
    simp only [ZoneController.step] at stepped
    exact sessionStep_asks stepped
  | offServiceReturned | offProofEnded | offAborted | offDispatch =>
    simp only [ZoneController.step] at stepped
    obtain ⟨moved, step, same⟩ := Option.map_eq_some_iff.mp stepped
    obtain ⟨rfl, -⟩ := Prod.mk.inj same
    exact .inl (offStep_asksNoMore step)
  | ensureOff =>
    obtain ⟨rfl, -⟩ := Prod.mk.inj (Option.some.inj stepped)
    exact .inl (beginOffOperation_asksNoMore _ _)
  | quiesce | updateOwnership =>
    obtain ⟨rfl, -⟩ := Prod.mk.inj (Option.some.inj stepped)
    exact .inl (.of_fields rfl (.inl rfl))

/-! ## The pulse a request is for -/

/-- Whoever takes the lock in WATERING finds the pulse that ON was requested for. -/
def AwaitsFor (pulse : Option PulseId) (controller : ZoneController) : Prop :=
  turnOn ∉ controller.ahead → controller.state = .watering →
    controller.session.map SessionContext.pulse = pulse

variable {pulse : Option PulseId}

theorem AwaitsFor.of_sameCore (awaits : AwaitsFor pulse controller) (same : SameCore controller next)
    (ahead : next.ahead = controller.ahead) : AwaitsFor pulse next := by
  intro notStarting watering
  rw [same.session]
  exact awaits (ahead ▸ notStarting) (same.state ▸ watering)

theorem AwaitsFor.of_not_watering (away : controller.state ≠ .watering) :
    AwaitsFor pulse controller :=
  fun _ watering => absurd watering away

theorem AwaitsFor.decideAndApply (awaits : AwaitsFor pulse controller)
    (unlocked : controller.locked = none) (event : ControllerEvent) (applier : Applier)
    (sessionId : String) :
    AwaitsFor pulse (controller.decideAndApply shared event applier sessionId) := by
  have nothing : turnOn ∉ controller.ahead := by simp [ahead_of_unlocked unlocked]
  have rolled := controller.rollDaily_sameDecided shared.calendar shared.now
  rcases controller.decideAndApply_cases shared event applier sessionId with
    ⟨raised, applied⟩ | ⟨decision, effect, -, applied⟩
  · rw [applied]
    have same := rolled.sameCore.trans (afterApply_sameCore _ applier raised).1
    intro _ watering
    rw [same.session]
    exact awaits nothing (same.state ▸ watering)
  · rw [applied]
    obtain ⟨-, session', state'⟩ := controller.applyPrelude_rolled shared decision
      ((controller.rollDaily shared.calendar shared.now).buildInput shared event sessionId)
    generalize (controller.rollDaily shared.calendar shared.now).applyPrelude shared decision _
      = adopted at session' state' ⊢
    intro notStarting watering
    have inputState : ((controller.rollDaily shared.calendar shared.now).buildInput shared event
      sessionId).state = controller.state := rolled.state
    have inputSession : ((controller.rollDaily shared.calendar shared.now).buildInput shared event
      sessionId).session = controller.session := rolled.session
    replace watering := state'.symm.trans watering
    change adopted.session.map SessionContext.pulse = pulse
    rw [session']
    cases effect with
    | starts _ _ _ _ _ _ _ on => exact absurd on notStarting
    | clears _ _ away => exact absurd (inputState ▸ watering) away
    | updates before after held decided kept same _ _ _ stays =>
      rw [inputSession] at held
      rw [inputState] at stays
      have was := awaits nothing (stays watering).1
      rw [held] at was
      simpa [decided, kept, same] using was
    | keeps decided kept _ _ stays =>
      rw [inputState] at stays
      simpa [decided, kept] using awaits nothing (stays watering)

theorem AwaitsFor.compensate (awaits : AwaitsFor pulse controller) (shared : SharedState)
    (configurationChanged serviceFailed : Bool) :
    AwaitsFor pulse (controller.compensate shared configurationChanged serviceFailed) := by
  have spec := controller.commitOnCompensationNow_spec shared configurationChanged serviceFailed
  unfold ZoneController.compensate
  generalize controller.commitOnCompensationNow shared configurationChanged serviceFailed
    = result at spec ⊢
  obtain ⟨committed, raised⟩ := result
  obtain ⟨frame, absent, present⟩ := spec
  simp only at frame absent present ⊢
  have kept : AwaitsFor pulse committed := by
    intro notStarting watering
    have before := awaits (ahead_congr frame.locked ▸ notStarting)
    cases prior : controller.session with
    | none =>
      obtain ⟨none', state'⟩ := absent prior
      have was := before (state' ▸ watering)
      simpa [prior, none'] using was
    | some session =>
      obtain ⟨after, held, same, -, stays⟩ := present session prior
      have was := before (stays watering).1
      simpa [prior, held, same] using was
  cases raised with
  | true => exact kept
  | false =>
    simp only [Bool.false_eq_true, if_false, ZoneController.ensureOffOperation,
      ZoneController.beginOffOperation]
    split <;> exact kept

/-- The next action of an application, unless it is TurnOn, when a start that is still to
request ON has a payload that can be built. -/
theorem AwaitsFor.act (awaits : AwaitsFor pulse controller) {saved : Bool} {decision : Decision}
    {input : TransitionInput} {rest : List Action} {applier : Applier}
    (locked : controller.locked = some (.applying decision input rest applier))
    (notOn : rest.head? ≠ some turnOn)
    (known : controller.safetyRecordId ∈ shared.store.safetyRecords.keys)
    (builds : ∀ tag tail, rest = persistState tag :: tail → turnOn ∈ tail →
      controller.PayloadBuilds shared) :
    AwaitsFor pulse (controller.act shared saved decision input applier rest).1 := by
  have ahead : controller.ahead = rest := by simp [ZoneController.ahead, locked]
  cases rest with
  | nil =>
    have same := controller.applyFinish_sameCore.trans
      (afterApply_sameCore controller.applyFinish applier false).1
    intro _ watering
    change Option.map _ (controller.applyFinish.afterApply applier false).session = pulse
    rw [same.session]
    exact awaits (by simp [ahead]) (same.state ▸ watering)
  | cons action rest =>
    obtain ⟨state', session', -⟩ := controller.applyAction_decided shared action saved
    -- With a TurnOn still ahead, only a failed write stops the application.
    have failing : turnOn ∈ rest → ∀ err,
        (controller.applyAction shared action saved).2 = some err →
        ∃ message, err = .storeWriteVerification message := fun starting err raised =>
      applyAction_error known (fun tag same => builds tag rest (by rw [same]) starting) raised
    have kept : turnOn ∉ rest →
        (controller.applyAction shared action saved).1.1.state = .watering →
        (controller.applyAction shared action saved).1.1.session.map SessionContext.pulse =
          pulse := by
      intro notStarting watering
      rw [session']
      refine awaits ?_ (state' ▸ watering)
      rw [ahead, List.mem_cons, not_or]
      exact ⟨fun same => notOn (by simp [same]), notStarting⟩
    simp only [ZoneController.act]
    rcases applied : controller.applyAction shared action saved with ⟨⟨acted, shared'⟩, raised⟩
    simp only [applied] at failing kept
    cases raised with
    | none =>
      intro notStarting watering
      have same : (acted.noteRequest action input).session = acted.session ∧
          (acted.noteRequest action input).state = acted.state := by
        cases action <;> exact ⟨rfl, rfl⟩
      change (acted.noteRequest action input).session.map SessionContext.pulse = pulse
      rw [same.1]
      exact kept notStarting (same.2 ▸ watering)
    -- A failed write leaves WATERING; what escapes leaves no TurnOn ahead.
    | some err =>
      have failed : AwaitsFor pulse (acted.handlePersistFailure.afterApply applier false) := by
        refine .of_not_watering ?_
        rw [(afterApply_sameCore acted.handlePersistFailure applier false).1.state,
          acted.handlePersistFailure_spec.1]
        simp
      have escaped : turnOn ∉ rest → AwaitsFor pulse (acted.afterApply applier true) := by
        intro notStarting _ watering
        have same := (afterApply_sameCore acted applier true).1
        rw [same.session]
        exact kept notStarting (same.state ▸ watering)
      by_cases starting : turnOn ∈ rest
      · obtain ⟨message, rfl⟩ := failing starting err rfl
        exact failed
      · cases err with
        | storeWriteVerification _ => exact failed
        | _ => exact escaped starting

/-- The pieces of a step keep the pulse that ON was requested for. -/
theorem closed_awaitsFor (pulse : Option PulseId) :
    ClosedCore (AwaitsFor pulse) fun _ => True where
  sameCore := AwaitsFor.of_sameCore
  decided event applier sessionId awaits unlocked _ :=
    awaits.decideAndApply unlocked event applier sessionId
  compensated shared configurationChanged serviceFailed awaits _ :=
    awaits.compensate shared configurationChanged serviceFailed
  ensured {controller} requestedFor compensating awaits := by
    simp only [ZoneController.ensureOffOperation, ZoneController.beginOffOperation]
    split <;> exact awaits
  begun {controller} requestedFor awaits := by
    unfold ZoneController.beginOffOperation
    split <;> exact awaits
  recorded {controller} marker awaits := by
    intro notStarting watering
    have was := awaits notStarting watering
    simp only [recordPossibleCommand, Option.map_map]
    rw [← was]
    cases controller.session with
    | none => rfl
    | some session =>
      simp only [Option.map_some, Function.comp_apply]
      split <;> rfl
  failed {controller} _ _ := .of_not_watering (by rw [controller.handlePersistFailure_spec.1]; simp)

/-! ## One command for each TurnOn -/

def executesTurnOn (controller : ZoneController) : ControllerLabel → Bool
  | .act _ => controller.ahead.head? = some turnOn
  | _ => false

/-- The pulses of the executed TurnOns after a step, the latest first. -/
def turnOnsAfter (controller : ZoneController) (label : ControllerLabel)
    (turnOns : List (Option PulseId)) : List (Option PulseId) :=
  if controller.executesTurnOn label then controller.session.map SessionContext.pulse :: turnOns
  else turnOns

/-- A TurnOn is not executed while the task is in the gate for an earlier one, and a start
does not fail with an earlier request left behind. -/
structure RequestsApart (controller : ZoneController) (shared : SharedState)
    (label : ControllerLabel) : Prop where
  settled : controller.executesTurnOn label = true → controller.sessionTask ≠ some .acquiring
  builds : ∀ saved tag rest, label = .act saved → controller.ahead = persistState tag :: rest →
    turnOn ∈ rest → controller.awaitsOn = true → controller.PayloadBuilds shared

/-- The dispatched pulses. -/
def called (controller : ZoneController) : List PulseId := controller.dispatches.map Prod.fst

/-- Every ON command has its TurnOn, and a pending request has one to spare. -/
structure Accounted (turnOns : List (Option PulseId)) (controller : ZoneController) : Prop where
  called : ∀ pulse, controller.called.count pulse ≤ turnOns.count (some pulse)
  alone : controller.onRequested = true → controller.sessionTask ≠ some .acquiring
  spare : controller.awaitsOn = true → ∃ pulse rest, turnOns = pulse :: rest ∧
    (∀ other, controller.called.count other ≤ rest.count (some other)) ∧
    AwaitsFor pulse controller

/-- A step that dispatches ON is the gate, which takes the request there and then. -/
theorem step_dispatchOn (stepped : controller.step shared label sessionId = some (next, shared'))
    (dispatches : next.dispatches ≠ controller.dispatches) :
    ∃ authority session, label = .gate authority ∧ controller.session = some session ∧
      controller.sessionTask = some .acquiring ∧ controller.locked = none ∧
      (controller.evaluateOnAuthority shared session.sessionId true authority).authorized = true ∧
      next = controller.dispatchOn shared.now session authority.reading := by
  obtain ⟨authority, -, rfl, -, -⟩ := step_dispatches stepped dispatches
  simp only [ZoneController.step, ZoneController.sessionStep] at stepped
  split at stepped
  case h_2 same task unlocked =>
    obtain rfl := ControllerLabel.gate.inj same
    obtain ⟨rfl, -⟩ := Prod.mk.inj (Option.some.inj stepped)
    rcases controller.gate_cases shared authority sessionId with
      quiet | ⟨session, held, authorized, gated⟩ | ⟨refusing, event, quiet, -, gated⟩
    · exact absurd quiet.dispatches dispatches
    · exact ⟨authority, session, rfl, held, task, unlocked, authorized, gated⟩
    · rw [gated, decideAndApply_dispatches] at dispatches
      exact absurd quiet.dispatches dispatches
  all_goals contradiction

/-- An executed TurnOn sets the flag and keeps the pulse. -/
theorem step_turnOn (stepped : controller.step shared label sessionId = some (next, shared'))
    (executes : controller.executesTurnOn label = true) :
    next.dispatches = controller.dispatches ∧ next.sessionTask = controller.sessionTask ∧
      next.session = controller.session := by
  cases label with
  | act saved =>
    simp only [executesTurnOn, decide_eq_true_eq] at executes
    simp only [ZoneController.step] at stepped
    split at stepped
    · rename_i decision input rest applier locked
      simp only [ahead, locked] at executes
      cases rest with
      | nil => cases executes
      | cons action rest =>
        obtain rfl : action = turnOn := by simpa using executes
        obtain ⟨rfl, -⟩ := Prod.mk.inj (Option.some.inj stepped)
        exact ⟨rfl, rfl, rfl⟩
    · cases stepped
  | _ => cases executes

theorem Accounted.step {turnOns : List (Option PulseId)} (accounted : Accounted turnOns controller)
    (known : controller.safetyRecordId ∈ shared.store.safetyRecords.keys)
    (apart : controller.RequestsApart shared label)
    (stepped : controller.step shared label sessionId = some (next, shared')) :
    Accounted (controller.turnOnsAfter label turnOns) next := by
  cases executes : controller.executesTurnOn label with
  -- A TurnOn is executed: its pulse is the newest entry.
  | true =>
    obtain ⟨calls, task, session⟩ := step_turnOn stepped executes
    have called : next.called = controller.called := congrArg (List.map Prod.fst) calls
    simp only [turnOnsAfter, executes, if_true]
    refine ⟨fun pulse => ?_, fun _ => task ▸ apart.settled executes, fun _ => ?_⟩
    · rw [called]
      exact (accounted.called pulse).trans (List.count_le_count_cons)
    · refine ⟨_, _, rfl, fun other => called ▸ accounted.called other, fun _ _ => ?_⟩
      rw [session]
  -- None is: either nothing is called, or the gate calls for the newest entry.
  | false =>
    simp only [turnOnsAfter, executes, Bool.false_eq_true, if_false]
    have asks := step_asks stepped fun saved same => by
      subst same
      simpa [executesTurnOn] using executes
    by_cases calls : next.dispatches = controller.dispatches
    · have called : next.called = controller.called := congrArg (List.map Prod.fst) calls
      -- The request, if there is one, still waits for the same pulse.
      have waits : controller.awaitsOn = true → ∃ pulse rest, turnOns = pulse :: rest ∧
          (∀ other, next.called.count other ≤ rest.count (some other)) ∧
          AwaitsFor pulse next := by
        intro awaits
        obtain ⟨pulse, rest, listed, spare, waitsFor⟩ := accounted.spare awaits
        refine ⟨pulse, rest, listed, called ▸ spare,
          (closed_awaitsFor pulse).step trivial waitsFor ?_ (.inr ?_) stepped⟩
        · rintro saved decision input actions applier rfl locked
          have ahead : controller.ahead = actions := by simp [ZoneController.ahead, locked]
          refine waitsFor.act locked ?_ known fun tag tail same starting =>
            apart.builds saved tag tail rfl (ahead.trans same) starting awaits
          simpa [executesTurnOn, ahead] using executes
        · exact fun shared configurationChanged serviceFailed waitsFor =>
            waitsFor.compensate shared configurationChanged serviceFailed
      refine ⟨fun pulse => called ▸ accounted.called pulse, ?_, fun awaits => waits ?_⟩
      · rcases asks with asks | ⟨-, rfl⟩
        · exact fun requested acquiring =>
            accounted.alone (asks.requested requested) (asks.acquiring acquiring)
        · exact fun requested => by cases requested
      · rcases asks with asks | ⟨requested, -⟩
        · exact asks.awaitsOn awaits
        · simp [awaitsOn, requested]
    · obtain ⟨authority, session, rfl, held, task, unlocked, authorized, rfl⟩ :=
        step_dispatchOn stepped calls
      obtain ⟨pulse, rest, rfl, spare, waitsFor⟩ := accounted.spare (by simp [awaitsOn, task])
      -- The gate finds the pulse of the TurnOn whose request it takes.
      have watering : controller.state = .watering := by
        simp only [OnAuthorization.authorized, evaluateOnAuthority, List.isEmpty_iff,
          List.append_eq_nil_iff, ite_eq_left_iff, List.cons_ne_nil, imp_false, not_not,
          finalOnGuardFailures] at authorized
        exact authorized.1.2.1
      have mine := waitsFor (by simp [ahead_of_unlocked unlocked]) watering
      rw [held, Option.map_some] at mine
      subst mine
      have requested : controller.onRequested = false := by
        by_contra requested
        exact accounted.alone (by simpa using requested) task
      refine ⟨fun other => ?_, fun asked => ?_, fun awaits => ?_⟩
      · have room := spare other
        simp only [ZoneController.called] at room
        simp only [ZoneController.called, dispatchOn, List.map_cons]
        by_cases same : session.pulse = other
        · subst same
          simpa using room
        · simpa [List.count_cons_of_ne same, List.count_cons, same] using room
      · simp [dispatchOn, requested] at asked
      · simp [awaitsOn, dispatchOn, requested] at awaits

end ZoneController

/-! ## Runs of an entry -/

/-- An entry with what its final gates read, and the pulses of the executed TurnOns of each
controller, the latest first.  These record history and decide nothing. -/
structure Commanded (κ : Type) where
  entry : Entry κ
  view : EntryView κ
  turnOns : κ → List (Option PulseId) := fun _ => []

inductive CommandedLabel (κ : Type) where
  | entry (label : EntryLabel κ)
  /-- A configuration notification, or a step of the reconciliation. -/
  | viewed (view : EntryView κ)

namespace Commanded

variable {κ : Type} [DecidableEq κ]

def Asked (state : Commanded κ) : EntryLabel κ → Prop
  | .controller key (.gate authority) _ =>
    authority = state.view.onAuthority key (state.entry.controllers key)
      state.entry.shared.store authority.reading
  | _ => True

instance (state : Commanded κ) (label : EntryLabel κ) : Decidable (state.Asked label) := by
  unfold Asked
  split <;> infer_instance

def turnOnsAfter (state : Commanded κ) : EntryLabel κ → κ → List (Option PulseId)
  | .controller key label _ => Function.update state.turnOns key
    ((state.entry.controllers key).turnOnsAfter label (state.turnOns key))
  | _ => state.turnOns

def step (state : Commanded κ) : CommandedLabel κ → Option (Commanded κ)
  | .entry label =>
    if state.Asked label then
      (state.entry.step label).map fun entry =>
        { state with entry := entry, turnOns := state.turnOnsAfter label }
    else none
  | .viewed view => some { state with view := view }

/-- The entry with its views as a labelled system. -/
def system : LabelledSystem (Commanded κ) (CommandedLabel κ) := ⟨Commanded.step⟩

variable {state next start finish : Commanded κ} {label : CommandedLabel κ} {key : κ}

/-- What holds of the ON commands of a controller: whichever comes next is dispatched under
verified authority for the session it waters, and no TurnOn has led to two of them. -/
structure OnVerified (state : Commanded κ) (key : κ) : Prop where
  verified : ∀ label next, system.step state label = some next →
    (next.entry.controllers key).dispatches ≠ (state.entry.controllers key).dispatches →
    ∃ session reading, (state.entry.controllers key).session = some session ∧
      (next.entry.controllers key).dispatches =
        (session.pulse, state.entry.shared.now) :: (state.entry.controllers key).dispatches ∧
      VerifiedAuthority state.view key (state.entry.controllers key) state.entry.shared session
        reading
  once : ∀ pulse, (state.entry.controllers key).called.count pulse ≤
    (state.turnOns key).count (some pulse)

/-- A step either moves the entry, with its TurnOns noted, or changes what the gates read. -/
theorem step_cases (stepped : state.step label = some next) :
    (∃ label' entry, label = .entry label' ∧ state.Asked label' ∧
      state.entry.step label' = some entry ∧
      next = { state with entry := entry, turnOns := state.turnOnsAfter label' }) ∨
    ∃ view, next = { state with view := view } := by
  cases label with
  | entry label' =>
    obtain ⟨asked, moved⟩ := Option.ite_none_right_eq_some.mp stepped
    obtain ⟨entry, acted, rfl⟩ := Option.map_eq_some_iff.mp moved
    exact .inl ⟨label', entry, rfl, asked, acted, rfl⟩
  | viewed view => exact .inr ⟨view, (Option.some.inj stepped).symm⟩

/-- Whatever state the entry is in, an ON command is dispatched under verified authority. -/
theorem verified_of_step (stepped : system.step state label = some next)
    (dispatches : (next.entry.controllers key).dispatches ≠
      (state.entry.controllers key).dispatches) :
    ∃ session reading, (state.entry.controllers key).session = some session ∧
      (next.entry.controllers key).dispatches =
        (session.pulse, state.entry.shared.now) :: (state.entry.controllers key).dispatches ∧
      VerifiedAuthority state.view key (state.entry.controllers key) state.entry.shared session
        reading := by
  rcases step_cases stepped with ⟨label', entry, -, asked, moved, rfl⟩ | ⟨view, rfl⟩
  · rcases Entry.step_cases moved with
      ⟨acting, label', sessionId, controller, shared, rfl, acted, rfl⟩ | kept
    · by_cases same : key = acting
      · subst same
        simp only [Function.update_self] at dispatches ⊢
        obtain ⟨authority, session, rfl, held, -, -, authorized, rfl⟩ :=
          ZoneController.step_dispatchOn acted dispatches
        refine ⟨session, authority.reading, held, rfl, ?_⟩
        rw [show authority = _ from asked] at authorized
        exact EntryView.verifiedAuthority_of_authorized held authorized
      · simp [Function.update_of_ne same] at dispatches
    · exact absurd (by rw [kept.controllers]) dispatches
  · exact absurd rfl dispatches

/-- The guard of a run: in every controller, requests are kept apart. -/
def RequestsApart (state : Commanded κ) (label : CommandedLabel κ) (_ : Commanded κ) : Prop :=
  ∀ key label' sessionId, label = .entry (.controller key label' sessionId) →
    (state.entry.controllers key).RequestsApart state.entry.shared label'

/-- The invariant of such runs. -/
structure Accounted (state : Commanded κ) : Prop where
  records : state.entry.RecordsKnown
  controllers : ∀ key, (state.entry.controllers key).Accounted (state.turnOns key)

theorem Accounted.step (accounted : state.Accounted) (stepped : state.step label = some next)
    (apart : state.RequestsApart label next) : next.Accounted := by
  rcases step_cases stepped with ⟨label', entry, rfl, -, moved, rfl⟩ | ⟨view, rfl⟩
  · refine ⟨accounted.records.step moved, fun key => ?_⟩
    cases label' with
    | controller acting label' sessionId =>
      obtain ⟨⟨controller, shared⟩, acted, rfl⟩ := Option.map_eq_some_iff.mp moved
      by_cases same : key = acting
      · subst same
        simpa [turnOnsAfter] using (accounted.controllers key).step (accounted.records key)
          (apart key label' sessionId rfl) acted
      · simpa [turnOnsAfter, Function.update_of_ne same] using accounted.controllers key
    | _ =>
      rcases Entry.step_cases moved with ⟨_, _, _, _, _, impossible, _⟩ | kept
      · cases impossible
      · simp only [kept.controllers]
        exact accounted.controllers key
  · exact ⟨accounted.records, accounted.controllers⟩

/-- A controller before its first session. -/
structure OnUntouched (controller : ZoneController) : Prop where
  onRequested : controller.onRequested = false
  sessionTask : controller.sessionTask = none
  dispatches : controller.dispatches = []

/-- In a run that keeps requests apart, ON commands are verified and each has its TurnOn. -/
theorem onVerified_of_run (reached : system.Run RequestsApart start finish)
    (known : start.entry.RecordsKnown)
    (untouched : ∀ key, OnUntouched (start.entry.controllers key)) (key : κ) :
    finish.OnVerified key := by
  have initial : start.Accounted := by
    refine ⟨known, fun key => ⟨fun pulse => ?_, fun requested => ?_, fun awaits => ?_⟩⟩
    · simp [ZoneController.called, (untouched key).dispatches]
    · simp [(untouched key).onRequested] at requested
    · simp [ZoneController.awaitsOn, (untouched key).onRequested, (untouched key).sessionTask]
        at awaits
  have invariant : finish.Accounted :=
    reached.preserves initial fun _ _ _ accounted stepped apart => accounted.step stepped apart
  exact ⟨fun _ _ stepped dispatches => verified_of_step stepped dispatches,
    (invariant.controllers key).called⟩

/-! ## A request that outlives its session -/

/-- The configuration of the sample zone, applied and current. -/
def sampleView : EntryView Unit :=
  let shadow := sampleShadow "bed" "uuid-a" "switch.a"
  let snapshot : ImmutableEntrySnapshot :=
    { observedGeneration := 1
      entrySnapshotFingerprint := "snapshot"
      zones := [{
        subentryId := "bed"
        config := sampleConfig "sensor.soil" "switch.a"
        sensorIdentity := shadow.sensorIdentity
        actuatorIdentity := shadow.actuatorIdentity
        configFingerprint := "fingerprint" }]
      sorted := by decide +kernel }
  { freshSnapshot := some snapshot
    observedSnapshot := some snapshot
    appliedSnapshot := some snapshot
    observedGeneration := 1
    appliedGeneration := 1
    processStopping := false
    stopping := false
    dirty := false
    reconciling := false
    failed := false
    reloadPending := false
    bindings := ⟨[("bed", ⟨"record-a", "history-a", .active, shadow, (), false⟩)],
      by decide +kernel⟩
    appliedConfig := fun _ => some shadow }

/-- The sample zone, idle and enabled. -/
def atRest : Commanded Unit := { entry := ⟨fun _ => sampleController, sampleShared⟩, view := sampleView }

/-- A check that implies that the requests of the sample zone are kept apart. -/
def apartCheck (state : Commanded Unit) : CommandedLabel Unit → Bool
  | .entry (.controller _ label _) =>
    let controller := state.entry.controllers ()
    !(controller.executesTurnOn label && decide (controller.sessionTask = some .acquiring)) &&
      !(controller.awaitsOn && decide (turnOn ∈ controller.ahead))
  | _ => true

theorem requestsApart_of_check {state next : Commanded Unit} {label : CommandedLabel Unit}
    (permitted : state.apartCheck label = true) : RequestsApart state label next := by
  rintro ⟨⟩ label' sessionId rfl
  simp only [apartCheck, Bool.and_eq_true, Bool.not_eq_true', Bool.and_eq_false_iff,
    decide_eq_false_iff_not] at permitted
  obtain ⟨apart, spare⟩ := permitted
  refine ⟨fun executes => ?_, fun saved tag rest _ ahead asks awaits => ?_⟩
  · exact apart.resolve_left (by simp [executes])
  · exact absurd (ahead ▸ List.mem_cons_of_mem _ asks) (spare.resolve_left (by simp [awaits]))

/-- The manual start of the sample zone, to the ON service and the anchor. -/
def manualStartLabels : List (CommandedLabel Unit) :=
  let authority : OnAuthority := ⟨[], false, ⟨true, true, false, Bool.and_false true⟩⟩
  let labels : List ControllerLabel :=
    .dispatch (.manualStartRequested (some 60)) :: List.replicate 5 (.act true) ++
      [.wake, .gate authority, .serviceReturned false authority, .reenter authority, .anchor true]
  labels.map fun label => .entry (.controller () label "first")

/-- The gate of a manual start passes, and the one TurnOn leads to one command. -/
theorem onVerified_of_run_commanded :
    ∃ ready finish,
      system.runWhile (fun state label _ => state.apartCheck label) atRest
        (manualStartLabels.take 7) = some ready ∧
      system.runWhile (fun state label _ => state.apartCheck label) ready
        (manualStartLabels.drop 7) = some finish ∧
      (finish.entry.controllers ()).called = [⟨"first", 0⟩] ∧
      ready.OnVerified () ∧ finish.OnVerified () := by
  have given : (system.runWhile (fun state label _ => state.apartCheck label) atRest
      (manualStartLabels.take 7)).any (fun ready =>
        (system.runWhile (fun state label _ => state.apartCheck label) ready
          (manualStartLabels.drop 7)).any fun finish =>
            decide ((finish.entry.controllers ()).called = [⟨"first", 0⟩])) = true := by
    decide +kernel
  obtain ⟨ready, first, given⟩ := (Option.any_eq_true _ _).mp given
  obtain ⟨finish, second, called⟩ := (Option.any_eq_true _ _).mp given
  have known : atRest.entry.RecordsKnown := fun () => by decide +kernel
  have before : system.Run RequestsApart atRest ready :=
    .of_runWhile (fun _ _ _ => requestsApart_of_check) first
  have after : system.Run RequestsApart ready finish :=
    .of_runWhile (fun _ _ _ => requestsApart_of_check) second
  exact ⟨ready, finish, first, second, of_decide_eq_true called,
    onVerified_of_run before known (fun _ => ⟨rfl, rfl, rfl⟩) (),
    onVerified_of_run (before.trans after) known (fun _ => ⟨rfl, rfl, rfl⟩) ()⟩

/-- The OFF operation of the first session finishes the second one, whose request stays; the
third session starts while the task is in the gate with it. -/
def outlivedRequestLabels : List (CommandedLabel Unit) :=
  let third : List (List ControllerLabel) :=
    [[.dispatch (.manualStartRequested (some 60))], List.replicate 2 (.act true),
      [.slotRequest, .slotResume, .offJoined, .slotOffer, .wake], List.replicate 5 (.act true),
      [.gate ⟨[], false, proven⟩, .serviceReturned false ⟨[], false, proven⟩,
        .reenter ⟨[], false, proven⟩, .anchor true, .recheck ⟨[], false, proven⟩, .wake,
        .gate ⟨[], false, proven⟩]]
  ((Entry.outlivedOffLabels.append ((List.replicate 5 (.act true)).map
    (EntryLabel.controller () · "second"))).append
      (third.flatten.map (EntryLabel.controller () · "third"))).map .entry
where
  proven : ActuatorAssessment := ⟨true, true, false, Bool.and_false true⟩

/-- One TurnOn leads to two ON commands. -/
theorem not_onVerified_outlived_request :
    ¬ ∀ start finish : Commanded Unit, system.Run (fun _ _ _ => True) start finish →
      start.entry.RecordsKnown → (∀ key, OnUntouched (start.entry.controllers key)) →
      ∀ key, finish.OnVerified key := by
  intro claimed
  obtain ⟨finish, executed, twice⟩ := (Option.any_eq_true _ _).mp
    (show (system.run atRest outlivedRequestLabels).any (fun finish =>
      decide ((finish.turnOns ()).count (some ⟨"third", 0⟩) <
        (finish.entry.controllers ()).called.count ⟨"third", 0⟩)) = true by decide +kernel)
  have once := (claimed atRest finish (LabelledSystem.Run.of_run executed)
    (fun () => by decide +kernel) (fun _ => ⟨rfl, rfl, rfl⟩) ()).once ⟨"third", 0⟩
  exact absurd (of_decide_eq_true twice) (not_lt.mpr once)

end Commanded

end MoistureLoop
