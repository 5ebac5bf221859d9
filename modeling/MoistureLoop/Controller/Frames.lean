import MoistureLoop.Controller.Apply
import MoistureLoop.Store.Updates

/-! # What applying a decision leaves unchanged

Adopting a decision writes the decided state, the accounting and the timers;
`Frame` lists everything else.  Executing actions never touches the decided
state. -/

open MoistureLoop.Action

namespace MoistureLoop

namespace ZoneController

/-- `next` differs from `controller` at most in decided state, accounting and timers. -/
structure Frame (controller next : ZoneController) : Prop where
  zoneId : next.zoneId = controller.zoneId
  safetyRecordId : next.safetyRecordId = controller.safetyRecordId
  zoneHistoryId : next.zoneHistoryId = controller.zoneHistoryId
  runId : next.runId = controller.runId
  configFingerprint : next.configFingerprint = controller.configFingerprint
  config : next.config = controller.config
  runtimeLifecycle : next.runtimeLifecycle = controller.runtimeLifecycle
  runtimeEligible : next.runtimeEligible = controller.runtimeEligible
  quiescing : next.quiescing = controller.quiescing
  enabled : next.enabled = controller.enabled
  observation : next.observation = controller.observation
  externalOn : next.externalOn = controller.externalOn
  armedWatchdog : next.armedWatchdog = controller.armedWatchdog
  assessment : next.assessment = controller.assessment
  sessionTask : next.sessionTask = controller.sessionTask
  onRequested : next.onRequested = controller.onRequested
  offRequested : next.offRequested = controller.offRequested
  offRequestedFor : next.offRequestedFor = controller.offRequestedFor
  offOperation : next.offOperation = controller.offOperation
  offOperations : next.offOperations = controller.offOperations
  offError : next.offError = controller.offError
  offProven : next.offProven = controller.offProven
  offProvenAt : next.offProvenAt = controller.offProvenAt
  slotTask : next.slotTask = controller.slotTask
  persistFailed : next.persistFailed = controller.persistFailed
  inflightOn : next.inflightOn = controller.inflightOn
  dispatches : next.dispatches = controller.dispatches
  locked : next.locked = controller.locked
  actuatorChanges : next.actuatorChanges = controller.actuatorChanges

/-- `next` differs from `controller` at most in accounting and timers. -/
structure SameDecided (controller next : ZoneController) : Prop extends
    Frame controller next where
  state : next.state = controller.state
  session : next.session = controller.session
  activeFault : next.activeFault = controller.activeFault
  secondaryFault : next.secondaryFault = controller.secondaryFault

theorem Frame.refl (controller : ZoneController) : Frame controller controller := by
  constructor <;> rfl

theorem Frame.trans {first second third : ZoneController} (left : Frame first second)
    (right : Frame second third) : Frame first third := by
  cases left
  cases right
  constructor <;> simp_all only

theorem SameDecided.refl (controller : ZoneController) : SameDecided controller controller :=
  { Frame.refl controller with state := rfl, session := rfl, activeFault := rfl
                               secondaryFault := rfl }

theorem SameDecided.trans {first second third : ZoneController} (left : SameDecided first second)
    (right : SameDecided second third) : SameDecided first third :=
  { left.toFrame.trans right.toFrame with
    state := right.state.trans left.state
    session := right.session.trans left.session
    activeFault := right.activeFault.trans left.activeFault
    secondaryFault := right.secondaryFault.trans left.secondaryFault }

variable (controller : ZoneController)

theorem rollDaily_sameDecided (calendar : LocalCalendar) (now : Instant) :
    SameDecided controller (controller.rollDaily calendar now) := by
  unfold rollDaily
  split
  · exact .refl _
  · exact ⟨by constructor <;> rfl, rfl, rfl, rfl, rfl⟩

theorem chargeRuntime_sameDecided (calendar : LocalCalendar) (now : Instant) (deltaS : Seconds)
    (endUtc : Instant) :
    SameDecided controller (controller.chargeRuntime calendar now deltaS endUtc) := by
  unfold chargeRuntime
  refine (controller.rollDaily_sameDecided calendar now).trans ?_
  simp only
  split
  · exact ⟨by constructor <;> rfl, rfl, rfl, rfl, rfl⟩
  · exact .refl _

theorem chargeGrowth_sameDecided (shared : SharedState) (decision : Decision)
    (input : TransitionInput) :
    SameDecided controller (controller.chargeGrowth shared decision input) := by
  unfold chargeGrowth
  simp only
  split
  · exact .refl _
  · split
    · exact controller.chargeRuntime_sameDecided _ _ _ _
    · exact .refl _

theorem finalizeSummary_sameDecided (reason : Option CompletionReason) (closed : SessionContext)
    (now : Instant) : SameDecided controller (controller.finalizeSummary reason closed now) := by
  unfold finalizeSummary
  split
  · exact .refl _
  · exact ⟨by constructor <;> rfl, rfl, rfl, rfl, rfl⟩

theorem cancelTimers_sameDecided (kinds : List TimerKind) :
    SameDecided controller (controller.cancelTimers kinds) :=
  ⟨by constructor <;> rfl, rfl, rfl, rfl, rfl⟩

theorem cancelWatchdog_sameDecided : SameDecided controller controller.cancelWatchdog :=
  ⟨by constructor <;> rfl, rfl, rfl, rfl, rfl⟩

private theorem soakTimers_sameDecided (previous current : ControllerState) :
    SameDecided controller
      (if previous = .soaking ∧ current ≠ .soaking then controller.cancelTimers [.soakEnd, .grace]
      else controller) := by
  split
  · exact controller.cancelTimers_sameDecided _
  · exact .refl _

theorem housekeepTimers_sameDecided (previous : ControllerState) :
    SameDecided controller (controller.housekeepTimers previous) := by
  have left : SameDecided controller
      (if previous = .watering ∧ controller.state ≠ .watering then
        (controller.cancelTimers [.pulseEnd, .manualEnd, .onConfirmTimeout]).cancelWatchdog
      else controller) := by
    split
    · exact (controller.cancelTimers_sameDecided _).trans (cancelWatchdog_sameDecided _)
    · exact .refl _
  have soaked := left.trans (soakTimers_sameDecided _ previous controller.state)
  unfold housekeepTimers
  simp only
  split
  · exact soaked.trans (cancelTimers_sameDecided _ _)
  · exact soaked

theorem recordPendingManual_sameDecided (decision : Decision) (input : TransitionInput) :
    SameDecided controller (controller.recordPendingManual decision input) := by
  unfold recordPendingManual
  split
  · split
    · exact ⟨by constructor <;> rfl, rfl, rfl, rfl, rfl⟩
    · exact .refl _
  · exact .refl _

theorem adopt_frame (decision : Decision) : Frame controller (controller.adopt decision) := by
  constructor <;> rfl

/-! ## The prelude adopts the decided state -/

theorem summarized_sameDecided (charged : ZoneController) (decision : Decision)
    (input : TransitionInput) :
    SameDecided charged
      (match decision.finalSession with
        | none => charged
        | some closed => charged.finalizeSummary decision.reason closed input.nowUtc) := by
  split
  · exact .refl _
  · exact finalizeSummary_sameDecided _ _ _ _

/-- The prelude is adoption followed by accounting and timers. -/
theorem applyPrelude_sameDecided (shared : SharedState) (decision : Decision)
    (input : TransitionInput) :
    SameDecided (controller.adopt decision)
      (controller.applyPrelude shared decision input) := by
  unfold applyPrelude
  refine SameDecided.trans ?_ (recordPendingManual_sameDecided _ decision input)
  refine SameDecided.trans ?_ (housekeepTimers_sameDecided _ controller.state)
  have charged : ∀ started : ZoneController, SameDecided controller started →
      SameDecided (controller.adopt decision)
        ((started.adopt decision).chargeGrowth shared decision input) := by
    intro started same
    refine SameDecided.trans ?_ (chargeGrowth_sameDecided _ shared decision input)
    cases same with
    | mk frame state session activeFault secondaryFault =>
      cases frame
      constructor
      · constructor <;> simp_all only [adopt]
      all_goals simp_all only [adopt]
  refine SameDecided.trans (charged _ ?_) (summarized_sameDecided _ decision input)
  split
  · split
    · split
      · exact ⟨by constructor <;> rfl, rfl, rfl, rfl, rfl⟩
      · exact .refl _
    · exact .refl _
  · exact .refl _

theorem applyPrelude_frame (shared : SharedState) (decision : Decision)
    (input : TransitionInput) :
    Frame controller (controller.applyPrelude shared decision input) :=
  (controller.adopt_frame decision).trans
    (controller.applyPrelude_sameDecided shared decision input).toFrame

@[simp] theorem applyPrelude_session (shared : SharedState) (decision : Decision)
    (input : TransitionInput) :
    (controller.applyPrelude shared decision input).session =
      if decision.clearSession then none else decision.session.or controller.session :=
  (controller.applyPrelude_sameDecided shared decision input).session

@[simp] theorem applyPrelude_state (shared : SharedState) (decision : Decision)
    (input : TransitionInput) :
    (controller.applyPrelude shared decision input).state =
      decision.newState.getD controller.state :=
  (controller.applyPrelude_sameDecided shared decision input).state

/-! ## The summary of the last session -/

@[simp] theorem rollDaily_lastSummary (calendar : LocalCalendar) (now : Instant) :
    (controller.rollDaily calendar now).lastSummary = controller.lastSummary := by
  unfold rollDaily
  split <;> rfl

@[simp] theorem chargeGrowth_lastSummary (shared : SharedState) (decision : Decision)
    (input : TransitionInput) :
    (controller.chargeGrowth shared decision input).lastSummary = controller.lastSummary := by
  simp only [chargeGrowth, chargeRuntime]
  split
  · rfl
  · split
    · split <;> simp
    · rfl

@[simp] theorem housekeepTimers_lastSummary (previous : ControllerState) :
    (controller.housekeepTimers previous).lastSummary = controller.lastSummary := by
  simp only [housekeepTimers]
  split <;> split <;> split <;> rfl

@[simp] theorem recordPendingManual_lastSummary (decision : Decision) (input : TransitionInput) :
    (controller.recordPendingManual decision input).lastSummary = controller.lastSummary := by
  unfold recordPendingManual
  split
  · split <;> rfl
  · rfl

/-- The decision adopted after its start has been noted keeps the last summary. -/
private theorem noted_lastSummary (decision : Decision) (input : TransitionInput) :
    ((if input.session = none then
        match decision.session with
        | some session =>
          if session.mode = .auto then
            { controller with lastAutoSessionStart := some session.startedAtUtc }
          else controller
        | none => controller
      else controller).adopt decision).lastSummary = controller.lastSummary := by
  split
  · split
    · split <;> rfl
    · rfl
  · rfl

theorem applyPrelude_lastSummary_of_open (shared : SharedState) (decision : Decision)
    (input : TransitionInput) (final : decision.finalSession = none) :
    (controller.applyPrelude shared decision input).lastSummary = controller.lastSummary := by
  simp only [applyPrelude, recordPendingManual_lastSummary, housekeepTimers_lastSummary, final,
    chargeGrowth_lastSummary]
  exact controller.noted_lastSummary decision input

theorem applyPrelude_lastSummary_of_closed (shared : SharedState) (decision : Decision)
    (input : TransitionInput) {reason : CompletionReason}
    (final : decision.finalSession.isSome = true) (named : decision.reason = some reason) :
    ((controller.applyPrelude shared decision input).lastSummary.map SessionSummary.reason) =
      some reason := by
  obtain ⟨closed, final⟩ := Option.isSome_iff_exists.mp final
  simp [applyPrelude, final, named, finalizeSummary]

/-! ## Actions keep the decided state -/

/-- No action touches the decided state or the identity of the controller. -/
theorem applyAction_decided (shared : SharedState) (action : Action) (saved : Bool) :
    let next := (controller.applyAction shared action saved).1.1
    next.state = controller.state ∧ next.session = controller.session ∧
      next.activeFault = controller.activeFault ∧
      next.secondaryFault = controller.secondaryFault ∧ next.zoneId = controller.zoneId ∧
      next.safetyRecordId = controller.safetyRecordId ∧
      next.zoneHistoryId = controller.zoneHistoryId := by
  cases action with
  | persistState tag =>
    have same := controller.rollDaily_sameDecided shared.calendar shared.now
    simp only [applyAction]
    split <;> exact ⟨same.state, same.session, same.activeFault, same.secondaryFault,
      same.zoneId, same.safetyRecordId, same.zoneHistoryId⟩
  | requestSlot =>
    simp only [applyAction, ensureSlotRequest]
    split <;> simp
  | armTimer kind atUtc => simp [applyAction, armTimerAt, cancelTimers]
  | _ => simp [applyAction, turnOnRequested]

end ZoneController

/-! ## A sample zone -/

/-- The controller of zone `bed`, idle and enabled, its switch off. -/
def sampleController : ZoneController where
  zoneId := "bed"
  safetyRecordId := "record-a"
  zoneHistoryId := "history-a"
  runId := "run"
  configFingerprint := "fingerprint"
  config := sampleConfig "sensor.soil" "switch.a"
  state := .idle
  enabled := true
  assessment := ⟨true, true, false, Bool.and_false true⟩
  daily := ⟨0, 0⟩

/-- A manual session of zone `bed` whose ON has not been dispatched yet. -/
def sampleSession : SessionContext where
  sessionId := "session"
  ownerRunId := "run"
  configFingerprint := "fingerprint"
  mode := .manual
  startedAtUtc := 100
  pulseIntentAtUtc := some 100
  manualRequestedDurationS := some 60
  manualEffectiveDurationS := some 60

/-- Zone `bed` has been granted the slot. -/
def sampleShared : SharedState where
  calendar := utcCalendar
  now := 100
  slots := { owner := some "bed", grantsEnabled := true }
  store := sampleStore

end MoistureLoop
