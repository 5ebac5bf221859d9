import MoistureLoop.Controller.Shared
import MoistureLoop.StateMachine.Committed

/-! # A compensated ON ends its session

Every branch of `_perform_on` that gives up an ON command commits a termination for the
session at once and then joins the shared OFF operation.  Where the commit takes, the
session stays committed until it is closed or faulted: it neither soaks nor completes. -/

open MoistureLoop.Action

namespace MoistureLoop

namespace ZoneController

/-! ## Where an OFF operation delivers its outcome -/

/-- The OFF operation has ended, so that its outcome has been dispatched. -/
def Delivered (controller : ZoneController) (operation : Nat) : Prop :=
  ∃ current, controller.offOperations[operation]? = some current ∧ current.isDone = true

/-- The lock is held to apply the outcome of the OFF operation. -/
def AppliesOff (controller : ZoneController) (operation : Nat) : Prop :=
  ∃ decision input rest,
    controller.locked = some (.applying decision input rest (.offOperation operation))

/-- The outcome of an OFF operation is only applied outside WATERING. -/
def AppliesAway (controller : ZoneController) : Prop :=
  ∀ operation, controller.AppliesOff operation → controller.state ≠ .watering

/-- `next` has the same decided session as `controller`, and no more OFF outcomes. -/
structure Unmoved (controller next : ZoneController) : Prop where
  state : next.state = controller.state
  session : next.session.map SessionContext.pendingTerminationReason =
    controller.session.map SessionContext.pendingTerminationReason
  activeFault : next.activeFault = controller.activeFault
  lastSummary : next.lastSummary = controller.lastSummary
  delivered : ∀ operation, next.Delivered operation → controller.Delivered operation
  applies : ∀ operation, next.AppliesOff operation → controller.AppliesOff operation

variable {controller next : ZoneController} {shared : SharedState} {operation : Nat}

theorem Unmoved.refl (controller : ZoneController) : Unmoved controller controller :=
  ⟨rfl, rfl, rfl, rfl, fun _ delivered => delivered, fun _ applies => applies⟩

theorem Unmoved.trans {first second third : ZoneController} (left : Unmoved first second)
    (right : Unmoved second third) : Unmoved first third :=
  ⟨right.state.trans left.state, right.session.trans left.session,
    right.activeFault.trans left.activeFault, right.lastSummary.trans left.lastSummary,
    fun operation delivered => left.delivered operation (right.delivered operation delivered),
    fun operation applies => left.applies operation (right.applies operation applies)⟩

/-- Controllers that agree on the decided session, the operations and the lock. -/
theorem Unmoved.of_fields (state : next.state = controller.state)
    (session : next.session.map SessionContext.pendingTerminationReason =
      controller.session.map SessionContext.pendingTerminationReason)
    (activeFault : next.activeFault = controller.activeFault)
    (lastSummary : next.lastSummary = controller.lastSummary)
    (offOperations : next.offOperations = controller.offOperations)
    (locked : next.locked = controller.locked ∨ ∀ operation, ¬ next.AppliesOff operation) :
    Unmoved controller next := by
  refine ⟨state, session, activeFault, lastSummary, fun _ delivered => ?_, fun _ applies => ?_⟩
  · simpa only [Delivered, offOperations] using delivered
  · rcases locked with locked | never
    · simpa only [AppliesOff, locked] using applies
    · exact absurd applies (never _)

theorem Quiet.unmoved (quiet : Quiet controller next) : Unmoved controller next :=
  .of_fields quiet.state (by rw [quiet.session]) quiet.activeFault quiet.lastSummary
    quiet.offOperations (.inl quiet.locked)

/-- A phase that is not the end delivers nothing. -/
theorem setOffPhase_unmoved (operation : Nat) {phase : OffPhase}
    (running : ∀ result, phase ≠ .done result) :
    Unmoved controller (controller.setOffPhase operation phase) := by
  refine ⟨rfl, rfl, rfl, rfl, fun other delivered => ?_, fun _ applies => applies⟩
  obtain ⟨current, found, done⟩ := delivered
  simp only [setOffPhase, List.getElem?_modify] at found
  split at found
  · obtain ⟨before, -, rfl⟩ := Option.map_eq_some_iff.mp found
    unfold OffOperation.isDone at done
    split at done
    · rename_i ends
      exact absurd ends (running _)
    · cases done
  · exact ⟨current, by simpa using found, done⟩

theorem offServiceReturned_unmoved (now : Instant) (operation left : Nat)
    (reading : ActuatorAssessment) :
    Unmoved controller (controller.offServiceReturned now operation left reading) := by
  have read : Unmoved controller { controller with assessment := reading } :=
    .of_fields rfl rfl rfl rfl rfl (.inl rfl)
  unfold offServiceReturned
  simp only
  split
  · exact read.trans (setOffPhase_unmoved operation (by simp))
  · exact read.trans (setOffPhase_unmoved operation (by simp))

theorem offProofEnded_unmoved (now : Instant) (operation left : Nat) :
    Unmoved controller (controller.offProofEnded now operation left) := by
  unfold offProofEnded
  split
  · exact setOffPhase_unmoved operation (by simp)
  · exact setOffPhase_unmoved operation (by cases left <;> simp)

/-- A fresh OFF operation has not ended. -/
theorem beginOffOperation_unmoved (requestedFor : Option PulseId) :
    Unmoved controller (controller.beginOffOperation requestedFor) := by
  rcases controller.beginOffOperation_cases requestedFor with ⟨same, -⟩ | begun
  · rw [same]
    exact .refl _
  · rw [begun]
    refine ⟨rfl, rfl, rfl, rfl, fun other delivered => ?_, fun _ applies => applies⟩
    obtain ⟨current, found, done⟩ := delivered
    simp only [newOffOperation, List.getElem?_append] at found
    split at found
    · exact ⟨current, found, done⟩
    · rw [List.getElem?_singleton] at found
      split at found
      · obtain rfl := Option.some.inj found
        cases done
      · cases found

theorem ensureOffOperation_unmoved (requestedFor : Option PulseId) (compensating : Bool) :
    Unmoved controller (controller.ensureOffOperation requestedFor compensating) := by
  have cleared : Unmoved controller { controller with offRequested := false } :=
    .of_fields rfl rfl rfl rfl rfl (.inl rfl)
  have begun := cleared.trans (beginOffOperation_unmoved requestedFor)
  exact begun.trans (.of_fields rfl rfl rfl rfl rfl (.inl rfl))

theorem recordPossibleCommand_unmoved (marker : InFlightOn) :
    Unmoved controller (controller.recordPossibleCommand marker) := by
  refine .of_fields rfl ?_ rfl rfl rfl (.inl rfl)
  cases held : controller.session with
  | none => simp [recordPossibleCommand, held]
  | some session =>
    simp only [recordPossibleCommand, held, Option.map_some]
    split <;> rfl

theorem applyAction_unmoved (shared : SharedState) (action : Action) (saved : Bool) :
    Unmoved controller (controller.applyAction shared action saved).1.1 := by
  by_cases on : action = turnOn
  · subst on
    exact .of_fields rfl rfl rfl rfl rfl (.inl rfl)
  · cases off : StateMachine.isExecuteOff action with
    | true =>
      cases action with
      | executeOff defensive => exact .of_fields rfl rfl rfl rfl rfl (.inl rfl)
      | _ => cases off
    | false => exact (controller.applyAction_quiet shared action saved on off).unmoved

theorem afterApply_unmoved {applier : Applier} (raised : Bool)
    (own : ∀ operation, applier ≠ .offOperation operation) :
    Unmoved controller (controller.afterApply applier raised) := by
  cases applier with
  | event | slot | refusal =>
    exact .of_fields rfl rfl rfl rfl rfl (.inr (by simp [AppliesOff, afterApply]))
  | offOperation operation => exact absurd rfl (own operation)
  | confirmation =>
    cases raised with
    | true => exact .of_fields rfl rfl rfl rfl rfl (.inr (by simp [AppliesOff, afterApply]))
    | false => exact .of_fields rfl rfl rfl rfl rfl (.inr (by simp [AppliesOff, afterApply]))

/-- The end of the application of an outcome: the operation ends too, unless it raised and
the failed sequence is still to be dispatched. -/
theorem afterApply_offOperation (operation : Nat) (raised : Bool) :
    let ended := controller.afterApply (.offOperation operation) raised
    ended.state = controller.state ∧ ended.session = controller.session ∧
      ended.activeFault = controller.activeFault ∧ ended.lastSummary = controller.lastSummary ∧
      (∀ other, ¬ ended.AppliesOff other) ∧
      ∀ other, ended.Delivered other → controller.Delivered other ∨
        (other = operation ∧ ∀ confirmedAt, raised = true →
          controller.offOperations[operation]?.map OffOperation.phase ≠
            some (.dispatching confirmedAt)) := by
  have delivers : ∀ {current : OffOperation} {other : Nat},
      controller.offOperations[operation]? = some current →
      (controller.setOffPhase operation (current.phase.afterDispatch raised)).Delivered other →
      controller.Delivered other ∨
        (other = operation ∧ ∀ confirmedAt, raised = true →
          controller.offOperations[operation]?.map OffOperation.phase ≠
            some (.dispatching confirmedAt)) := by
    rintro current other found ⟨after, found', done⟩
    simp only [setOffPhase, List.getElem?_modify] at found'
    split at found'
    · rename_i same
      subst same
      refine .inr ⟨rfl, fun confirmedAt raises phase => ?_⟩
      rw [found] at phase found'
      obtain rfl := Option.some.inj found'
      have phase := Option.some.inj phase
      simp [OffOperation.isDone, phase, OffPhase.afterDispatch, raises] at done
    · exact .inl ⟨after, by simpa using found', done⟩
  simp only [afterApply]
  split
  · exact ⟨rfl, rfl, rfl, rfl, by simp [AppliesOff], fun _ delivered => .inl delivered⟩
  · rename_i current found
    split
    · exact ⟨rfl, rfl, rfl, rfl, by simp [AppliesOff, setOffPhase],
        fun other delivered => delivers found delivered⟩
    · exact ⟨rfl, rfl, rfl, rfl, by simp [AppliesOff, setOffPhase],
        fun other delivered => delivers found delivered⟩

/-- A lock of `_perform_on` applies no outcome. -/
theorem not_appliesOff_of_commands {holder : LockHolder} (commands : holder.commands = true)
    (operation : Nat) :
    ¬ ({ controller with locked := some holder } : ZoneController).AppliesOff operation := by
  rintro ⟨decision, input, rest, locked⟩
  obtain rfl := Option.some.inj locked
  cases commands

/-! ## Outcomes are applied outside WATERING -/

theorem AppliesAway.of_unmoved (away : controller.AppliesAway) (same : Unmoved controller next) :
    next.AppliesAway :=
  fun operation applies => same.state ▸ away operation (same.applies operation applies)

theorem AppliesAway.decideAndApply {event : ControllerEvent} {applier : Applier}
    {sessionId : String}
    (outcome : ∀ operation, applier = .offOperation operation → StateMachine.IsOutcome event) :
    (controller.decideAndApply shared event applier sessionId).AppliesAway := by
  rcases controller.decideAndApply_cases shared event applier sessionId with
    ⟨raised, applied⟩ | ⟨decision, -, ⟨decided, -⟩, applied⟩
  · rw [applied]
    rintro operation ⟨decision, input, rest, locked⟩
    cases applier with
    | event | slot | refusal => simp [afterApply] at locked
    | confirmation => cases raised <;> simp [afterApply] at locked
    | offOperation operation =>
      exact absurd ⟨decision, input, rest, locked⟩
        ((afterApply_offOperation operation raised).2.2.2.2.1 _)
  · rw [applied]
    rintro operation ⟨decision', input, rest, locked⟩
    obtain ⟨-, -, -, rfl⟩ := LockHolder.applying.inj (Option.some.inj locked)
    have leaves := StateMachine.decide_ne_watering (outcome operation rfl) decided
    simpa [buildInput] using leaves

theorem handlePersistFailure_fields (controller : ZoneController) :
    controller.handlePersistFailure.state = .fault ∧
      controller.handlePersistFailure.activeFault = some .restoredFromUnsafeState ∧
      controller.handlePersistFailure.lastSummary = controller.lastSummary := by
  unfold handlePersistFailure
  simp only
  split
  · exact ⟨rfl, rfl, rfl⟩
  · exact ⟨rfl, rfl, rfl⟩

theorem AppliesAway.compensate (away : controller.AppliesAway) (configurationChanged
    serviceFailed : Bool) :
    (controller.compensate shared configurationChanged serviceFailed).AppliesAway := by
  obtain ⟨frame, absent, present⟩ :=
    controller.commitOnCompensationNow_spec shared configurationChanged serviceFailed
  have committed : (controller.commitOnCompensationNow shared configurationChanged
      serviceFailed).1.AppliesAway := by
    rintro operation ⟨decision, input, rest, locked⟩ watering
    refine away operation ⟨decision, input, rest, frame.locked ▸ locked⟩ ?_
    cases held : controller.session with
    | none => exact (absent held).2 ▸ watering
    | some session =>
      obtain ⟨_, -, -, -, leads⟩ := present session held
      exact (leads watering).1
  simp only [ZoneController.compensate]
  split
  · exact committed.of_unmoved (.of_fields rfl rfl rfl rfl rfl (.inl rfl))
  · exact committed.of_unmoved (ensureOffOperation_unmoved _ true)

/-- The next action of an application, or its end, keeps the outcomes away. -/
theorem AppliesAway.act (away : controller.AppliesAway) {decision : Decision}
    {input : TransitionInput} {rest : List Action} {applier : Applier} (saved : Bool)
    (locked : controller.locked = some (.applying decision input rest applier)) :
    (controller.act shared saved decision input applier rest).1.AppliesAway := by
  have ended : ∀ (other : ZoneController) (raised : Bool),
      (other.afterApply applier raised).AppliesAway := by
    rintro other raised operation ⟨decision, input, rest, locked⟩
    cases applier with
    | event | slot | refusal => simp [afterApply] at locked
    | confirmation => cases raised <;> simp [afterApply] at locked
    | offOperation operation =>
      exact absurd ⟨decision, input, rest, locked⟩
        ((afterApply_offOperation operation raised).2.2.2.2.1 _)
  cases rest with
  | nil => exact ended _ _
  | cons action rest =>
    have decided := controller.applyAction_decided shared action saved
    simp only [ZoneController.act]
    split
    · rename_i acted shared' applied
      simp only [applied] at decided
      rintro operation ⟨decision', input', rest', locked'⟩
      obtain ⟨-, -, -, rfl⟩ := LockHolder.applying.inj (Option.some.inj locked')
      have noted : (acted.noteRequest action input).state = acted.state := by
        cases action <;> rfl
      simp only [noted, decided.1]
      exact away operation ⟨decision, input, _, locked⟩
    · exact ended _ _
    · exact ended _ _

/-- Outcomes are applied away in every reachable state. -/
theorem closed_appliesAway :
    Closed AppliesAway (fun _ => True) (fun _ => True) (fun _ => True) fun _ _ => True where
  stable _ _ _ _ := trivial
  quiet away quiet := away.of_unmoved quiet.unmoved
  released away _ := away.of_unmoved
    (.of_fields rfl rfl rfl rfl rfl (.inr (by simp [AppliesOff])))
  took {_ holder} away _ commands := away.of_unmoved
    (.of_fields rfl rfl rfl rfl rfl (.inr (not_appliesOff_of_commands commands)))
  observed _ _ _ away _ := away.of_unmoved (.of_fields rfl rfl rfl rfl rfl (.inl rfl))
  taken away _ := away.of_unmoved (.of_fields rfl rfl rfl rfl rfl (.inl rfl))
  proving _ away _ _ _ := away.of_unmoved
    (.of_fields rfl rfl rfl rfl rfl (.inr (by simp [AppliesOff])))
  proven _ _ _ _ := .decideAndApply (by simp)
  offReturned reading away _ _ := away.of_unmoved (offServiceReturned_unmoved _ _ _ reading)
  offEnded away _ _ := away.of_unmoved (offProofEnded_unmoved _ _ _)
  offAborted away _ _ := away.of_unmoved (setOffPhase_unmoved _ (by simp))
  offSettled {_ _ _ confirmedAt} _ _ _ _ _ := .decideAndApply fun _ _ => by
    cases confirmedAt with
    | none => exact .inl rfl
    | some offAt => exact .inr ⟨offAt, rfl⟩
  offRecovered _ _ _ _ _ := .decideAndApply fun _ _ => .inl rfl
  decided _ _ _ _ _ _ _ own _ := .decideAndApply fun operation same => absurd same (own operation)
  dispatched _ away _ _ _ _ _ := away.of_unmoved (.of_fields rfl rfl rfl rfl rfl (.inl rfl))
  compensated _ changed failed away _ := away.compensate changed failed
  ensured away _ := away.of_unmoved (ensureOffOperation_unmoved _ false)
  begun away := away.of_unmoved (beginOffOperation_unmoved _)
  recorded marker away := away.of_unmoved (recordPossibleCommand_unmoved marker)
  failed {controller} _ _ := fun _ _ watering => by
    simp [(controller.handlePersistFailure_fields).1] at watering

/-! ## The compensated session -/

/-- The session stays committed while it is open, also after the OFF operation has ended,
and is closed with a committed reason. -/
structure Compensated (operation : Nat) (controller : ZoneController) : Prop where
  committed : ∀ session, controller.session = some session →
    StateMachine.Committed controller.state controller.activeFault session
  closed : controller.session = none → ∃ reason,
    controller.lastSummary.map SessionSummary.reason = some reason ∧ reason ≠ .manualComplete
  delivered : controller.Delivered operation → controller.session.isSome = true →
    controller.state ≠ .watering
  away : controller.AppliesAway

/-- Being committed depends on the reason of the session alone. -/
theorem committed_congr {state : ControllerState} {activeFault : Option FaultCode}
    {before after : SessionContext}
    (committed : StateMachine.Committed state activeFault before)
    (same : after.pendingTerminationReason = before.pendingTerminationReason) :
    StateMachine.Committed state activeFault after :=
  ⟨same ▸ committed.reason, committed.resting⟩

theorem Unmoved.session_some {after : SessionContext} (same : Unmoved controller next)
    (held : next.session = some after) :
    ∃ before, controller.session = some before ∧
      after.pendingTerminationReason = before.pendingTerminationReason := by
  have reason := same.session
  cases open' : controller.session with
  | none => simp [held, open'] at reason
  | some before => exact ⟨before, rfl, by simpa [held, open'] using reason⟩

theorem Unmoved.session_some_of {before : SessionContext} (same : Unmoved controller next)
    (held : controller.session = some before) :
    ∃ after, next.session = some after ∧
      after.pendingTerminationReason = before.pendingTerminationReason := by
  have reason := same.session
  cases open' : next.session with
  | none => simp [held, open'] at reason
  | some after => exact ⟨after, rfl, by simpa [held, open'] using reason⟩

theorem Unmoved.session_none (same : Unmoved controller next) :
    next.session = none ↔ controller.session = none := by
  have reason := same.session
  cases held : next.session <;> cases open' : controller.session <;> simp_all

theorem Compensated.of_unmoved (compensated : Compensated operation controller)
    (same : Unmoved controller next) : Compensated operation next := by
  refine ⟨fun after held => ?_, fun closed => ?_, fun delivered opened => ?_,
    compensated.away.of_unmoved same⟩
  · obtain ⟨before, held', reason⟩ := same.session_some held
    rw [same.state, same.activeFault]
    exact committed_congr (compensated.committed before held') reason
  · rw [same.lastSummary]
    exact compensated.closed (same.session_none.mp closed)
  · obtain ⟨after, held⟩ := Option.isSome_iff_exists.mp opened
    obtain ⟨before, held', -⟩ := same.session_some held
    exact same.state ▸ compensated.delivered (same.delivered operation delivered) (by simp [held'])

def OutsideWatering (controller : ZoneController) : Prop :=
  controller.session.isSome = true → controller.state ≠ .watering

/-- The end of an application, where an OFF operation that ends has left WATERING. -/
theorem Compensated.afterApply (compensated : Compensated operation controller)
    {applier : Applier} (raised : Bool)
    (ends : applier = .offOperation operation →
      (∀ confirmedAt, raised = true →
        controller.offOperations[operation]?.map OffOperation.phase ≠
          some (.dispatching confirmedAt)) → controller.OutsideWatering) :
    Compensated operation (controller.afterApply applier raised) := by
  by_cases own : ∃ other, applier = .offOperation other
  · obtain ⟨other, rfl⟩ := own
    obtain ⟨state, session, activeFault, lastSummary, unlocked, delivers⟩ :=
      controller.afterApply_offOperation other raised
    refine ⟨fun after held => ?_, fun closed => ?_, fun delivered opened => ?_,
      fun operation applies => absurd applies (unlocked operation)⟩
    · rw [state, activeFault]
      exact compensated.committed after (session ▸ held)
    · rw [lastSummary]
      exact compensated.closed (session ▸ closed)
    · rw [state]
      rw [session] at opened
      rcases delivers operation delivered with before | ⟨rfl, ending⟩
      · exact compensated.delivered before opened
      · exact ends rfl ending opened
  · refine compensated.of_unmoved (afterApply_unmoved raised fun other same => own ⟨other, same⟩)

/-- `next` is `controller` after a decision about `input` has been adopted. -/
structure Adopts (controller : ZoneController) (input : TransitionInput) (decision : Decision)
    (next : ZoneController) : Prop where
  input : input.state = controller.state ∧ input.session = controller.session ∧
    input.activeFault = controller.activeFault
  state : next.state = decision.newState.getD controller.state
  session : next.session = if decision.clearSession then none
    else decision.session.or controller.session
  activeFault : next.activeFault = if decision.clearFault then none
    else decision.fault.or controller.activeFault
  lastSummary : decision.finalSession = none → next.lastSummary = controller.lastSummary
  closed : ∀ reason, decision.finalSession.isSome = true → decision.reason = some reason →
    next.lastSummary.map SessionSummary.reason = some reason
  offOperations : next.offOperations = controller.offOperations

theorem applyPrelude_adopts (controller : ZoneController) (shared : SharedState)
    (event : ControllerEvent) (sessionId : String) (decision : Decision)
    (locked : Option LockHolder) :
    let rolled := controller.rollDaily shared.calendar shared.now
    let input := rolled.buildInput shared event sessionId
    controller.Adopts input decision
      { rolled.applyPrelude shared decision input with locked := locked } := by
  have rolled := controller.rollDaily_quiet shared.calendar shared.now
  have adopted := applyPrelude_sameDecided (controller.rollDaily shared.calendar shared.now) shared
    decision ((controller.rollDaily shared.calendar shared.now).buildInput shared event sessionId)
  exact
    { input := ⟨rolled.state, rolled.session, rolled.activeFault⟩
      state := by rw [← rolled.state]; exact adopted.state
      session := by rw [← rolled.session]; exact adopted.session
      activeFault := by rw [← rolled.activeFault]; exact adopted.activeFault
      lastSummary := fun final => by
        rw [← rolled.lastSummary]; exact applyPrelude_lastSummary_of_open _ _ _ _ final
      closed := fun _ final named => applyPrelude_lastSummary_of_closed _ _ _ _ final named
      offOperations := by rw [← rolled.offOperations]; exact adopted.offOperations }

/-- A decision keeps the compensated session committed or closes it. -/
theorem Compensated.adopts (compensated : Compensated operation controller)
    {decision : Decision} {input : TransitionInput} (adopts : controller.Adopts input decision next)
    (decided : StateMachine.decide input = .ok decision)
    (open' : controller.session.isSome = true → ¬ StateMachine.Acknowledged input)
    (starts : turnOn ∈ decision.actions → controller.session.isSome = true)
    (away : next.AppliesAway) : Compensated operation next := by
  obtain ⟨state, session, fault⟩ := adopts.input
  cases held : controller.session with
  | none =>
    have final := StateMachine.decide_finalSession_of_absent (session.trans held) decided
    have closed : next.session = none := by
      rw [adopts.session, held]
      cases StateMachine.decide_effect decided with
      | starts _ _ _ _ _ _ _ requests => simp [held, requests] at starts
      | clears cleared => simp [cleared]
      | updates _ _ open' => simp [session, held] at open'
      | keeps none' => simp [none']
    refine ⟨fun after held' => ?_, fun _ => ?_, fun _ opened => ?_, away⟩
    · simp [closed] at held'
    · rw [adopts.lastSummary final]
      exact compensated.closed held
    · simp [closed] at opened
  | some before =>
    have committed := compensated.committed before held
    have kept := StateMachine.decide_keepsCommitted (session.trans held)
      (by rw [state, fault]; exact committed) (open' (by simp [held])) decided
    cases kept with
    | closes _ cleared final named notManual =>
      have closed : next.session = none := by simp [adopts.session, cleared]
      refine ⟨fun after held' => ?_, fun _ => ⟨_, adopts.closed _ final named, notManual⟩,
        fun _ opened => ?_, away⟩
      · simp [closed] at held'
      · simp [closed] at opened
    | @keeps later uncleared updated after stays =>
      have opened : next.session = some later := by
        rw [adopts.session, uncleared, ← session]
        exact updated
      have latched : next.activeFault = StateMachine.faultAfter input decision := by
        rw [adopts.activeFault, StateMachine.faultAfter, fault]
      rw [state, ← adopts.state] at after stays
      refine ⟨fun other held' => ?_, fun closed => ?_, fun delivered _ watering => ?_, away⟩
      · obtain rfl := Option.some.inj (opened.symm.trans held')
        exact latched ▸ after
      · simp [opened] at closed
      · refine compensated.delivered ?_ (by simp [held]) (stays watering)
        simpa only [Delivered, adopts.offOperations] using delivered

/-- Deciding keeps the session compensated, where the outcome of the OFF operation is
decided in the phase it belongs to. -/
theorem Compensated.decideAndApply (compensated : Compensated operation controller)
    {event : ControllerEvent} {applier : Applier} (sessionId : String)
    (open' : event = .clearFaultRequested → controller.session.isSome = true → ∀ sessionId,
      ¬ StateMachine.Acknowledged ((controller.rollDaily shared.calendar shared.now).buildInput
        shared event sessionId))
    (starts : turnOn ∈ (controller.decideAndApply shared event applier sessionId).ahead →
      controller.session.isSome = true)
    (outcome : ∀ other, applier = .offOperation other → StateMachine.IsOutcome event ∧
      ((∃ confirmedAt, controller.offOperations[other]?.map OffOperation.phase =
        some (.dispatching confirmedAt)) ∨ event = .offNotConfirmed)) :
    Compensated operation (controller.decideAndApply shared event applier sessionId) := by
  have rolled := controller.rollDaily_quiet shared.calendar shared.now
  have kept := compensated.of_unmoved rolled.unmoved
  have away : (controller.decideAndApply shared event applier sessionId).AppliesAway :=
    .decideAndApply fun other same => (outcome other same).1
  unfold ZoneController.decideAndApply at starts away ⊢
  simp only at starts away ⊢
  split
  · rename_i error decided
    refine kept.afterApply true fun same ending opened watering => ?_
    obtain ⟨-, ⟨confirmedAt, phase⟩ | unproven⟩ := outcome operation same
    · exact ending confirmedAt rfl (by rw [rolled.offOperations]; exact phase)
    · obtain ⟨session, held⟩ := Option.isSome_iff_exists.mp opened
      cases decided.symm.trans (StateMachine.decide_offNotConfirmed held unproven watering)
  · rename_i decision decided
    simp only [decided] at starts away
    split
    · rename_i noOp
      refine kept.afterApply false fun same _ _ watering => ?_
      have acts := (StateMachine.decide_leavesWatering (outcome operation same).1 watering decided).1
      simp [acts] at noOp
    · rename_i acts
      simp only [if_neg acts] at starts away
      refine compensated.adopts (controller.applyPrelude_adopts shared event sessionId decision _)
        decided (fun opened acknowledged => ?_) starts away
      exact open' acknowledged.1 opened _ acknowledged

/-- A failed write faults the session with its reason. -/
theorem Compensated.handlePersistFailure (compensated : Compensated operation controller) :
    Compensated operation controller.handlePersistFailure := by
  obtain ⟨state, -, -, -, operations, locked, session, -⟩ := controller.handlePersistFailure_spec
  obtain ⟨-, fault, summary⟩ := controller.handlePersistFailure_fields
  refine ⟨fun after held => ?_, fun closed => ?_, fun _ _ => by simp [state],
    fun _ _ => by simp [state]⟩
  · rw [session] at held
    obtain ⟨before, held', rfl⟩ := Option.map_eq_some_iff.mp held
    obtain ⟨reason, pending, notManual⟩ := (compensated.committed before held').reason
    exact ⟨⟨reason, by simp [pending], notManual⟩, .inr ⟨.inl state, by simp [fault]⟩⟩
  · rw [summary]
    exact compensated.closed (Option.map_eq_none_iff.mp (session ▸ closed))

/-- The next action of an application, or its end. -/
theorem Compensated.act (compensated : Compensated operation controller) {decision : Decision}
    {input : TransitionInput} {rest : List Action} {applier : Applier} (saved : Bool)
    (locked : controller.locked = some (.applying decision input rest applier)) :
    Compensated operation (controller.act shared saved decision input applier rest).1 := by
  have away := @AppliesAway.act _ shared compensated.away _ _ _ _ saved locked
  have applied : ∀ other, applier = .offOperation other → controller.state ≠ .watering := by
    rintro other rfl
    exact compensated.away other ⟨decision, input, rest, locked⟩
  cases rest with
  | nil =>
    have finished : Compensated operation controller.applyFinish := by
      refine compensated.of_unmoved ?_
      unfold applyFinish
      split
      · exact .of_fields rfl rfl rfl rfl rfl (.inl rfl)
      · exact .refl _
    refine finished.afterApply false fun same _ _ => ?_
    rw [(controller.applyFinish_sameCore).state]
    exact applied operation same
  | cons action rest =>
    have same := @applyAction_unmoved controller shared action saved
    simp only [ZoneController.act] at away ⊢
    split
    · rename_i acted shared' applied'
      simp only [applied'] at same
      have noted : Unmoved controller { acted.noteRequest action input with
          locked := some (.applying decision input rest applier) } := by
        have request : Unmoved acted (acted.noteRequest action input) := by
          cases action <;> exact .of_fields rfl rfl rfl rfl rfl (.inl rfl)
        have noted := same.trans request
        refine ⟨noted.state, noted.session, noted.activeFault, noted.lastSummary,
          noted.delivered, fun other applying => ?_⟩
        obtain ⟨_, _, _, locked'⟩ := applying
        obtain ⟨-, -, -, rfl⟩ := LockHolder.applying.inj (Option.some.inj locked')
        exact ⟨decision, input, _, locked⟩
      exact compensated.of_unmoved noted
    · rename_i acted shared' message applied'
      simp only [applied'] at same
      refine (compensated.of_unmoved same).handlePersistFailure.afterApply false fun _ _ _ => ?_
      simp [(acted.handlePersistFailure_fields).1]
    · rename_i acted shared' error _ applied'
      simp only [applied'] at same
      refine (compensated.of_unmoved same).afterApply true fun own _ _ => ?_
      exact same.state ▸ applied operation own

/-! ## Committing at once -/

theorem compensationEvent_not_closing {now : Instant} {session : SessionContext}
    {configurationChanged serviceFailed : Bool} :
    ¬ StateMachine.IsClosing
      (controller.compensationEvent now session configurationChanged serviceFailed) := by
  unfold compensationEvent
  split
  · simp [StateMachine.IsClosing]
  · split
    · simp [StateMachine.IsClosing]
    · split
      · split
        · simp [StateMachine.IsClosing]
        · split <;> simp [StateMachine.IsClosing]
      · simp [StateMachine.IsClosing]

theorem compensationEvent_ne_clear {now : Instant} {session : SessionContext}
    {configurationChanged serviceFailed : Bool} :
    controller.compensationEvent now session configurationChanged serviceFailed ≠
      .clearFaultRequested := by
  unfold compensationEvent
  split
  · simp
  · split
    · simp
    · split
      · split
        · simp
        · split <;> simp
      · simp

theorem markEstimated_unmoved (session : SessionContext) (held : controller.session = some session) :
    Unmoved controller (controller.markEstimated session) := by
  unfold markEstimated
  split
  · exact .refl _
  · exact .of_fields rfl (by simp [held]) rfl rfl rfl (.inl rfl)

theorem adoptNow_fields (decision : Decision) :
    (controller.adoptNow decision).activeFault = decision.fault.or controller.activeFault ∧
      (controller.adoptNow decision).lastSummary = controller.lastSummary := by
  unfold adoptNow
  simp only
  split
  · exact ⟨rfl, rfl⟩
  · exact ⟨rfl, rfl⟩

/-- A fault that is not cleared after all does no harm. -/
theorem committed_of_faultAfter {input : TransitionInput} {decision : Decision}
    {state : ControllerState} {session : SessionContext}
    (committed : StateMachine.Committed state (StateMachine.faultAfter input decision) session) :
    StateMachine.Committed state (decision.fault.or input.activeFault) session := by
  refine ⟨committed.reason, ?_⟩
  have resting := committed.resting
  simp only [StateMachine.faultAfter] at resting
  split at resting
  · exact .inl (by simpa using resting)
  · exact resting

/-- A decision that closes nothing may be adopted at once; that it would clear a fault is
then ignored. -/
theorem Compensated.adoptNow (compensated : Compensated operation controller)
    {event : ControllerEvent} {sessionId : String} {decision : Decision} {before : SessionContext}
    (held : controller.session = some before)
    (decided : StateMachine.decide (controller.buildInput shared event sessionId) = .ok decision)
    (open' : ¬ StateMachine.Acknowledged (controller.buildInput shared event sessionId))
    (notClosing : ¬ StateMachine.IsClosing event) :
    Compensated operation (controller.adoptNow decision) := by
  obtain ⟨frame, session, state⟩ := controller.adoptNow_spec decision
  obtain ⟨fault, summary⟩ := controller.adoptNow_fields decision
  have kept := StateMachine.decide_keepsCommitted held (compensated.committed before held) open'
    decided
  cases kept with
  | closes closing => exact absurd closing notClosing
  | @keeps later _ updated after stays =>
    have opened : (controller.adoptNow decision).session = some later := session.trans updated
    have leads : (controller.adoptNow decision).state = .watering → controller.state = .watering :=
      fun watering => stays (state ▸ watering)
    refine ⟨fun other held' => ?_, fun closed => ?_, fun delivered _ watering => ?_,
      fun other ⟨decision', input, rest, locked⟩ watering => ?_⟩
    · obtain rfl := Option.some.inj (opened.symm.trans held')
      rw [state, fault]
      exact committed_of_faultAfter after
    · simp [opened] at closed
    · refine compensated.delivered ?_ (by simp [held]) (leads watering)
      simpa only [Delivered, frame.offOperations] using delivered
    · exact compensated.away other ⟨decision', input, rest, frame.locked ▸ locked⟩ (leads watering)

/-- A further compensation keeps the session committed. -/
theorem Compensated.commitOnCompensationNow (compensated : Compensated operation controller)
    (shared : SharedState) (configurationChanged serviceFailed : Bool) :
    Compensated operation
      (controller.commitOnCompensationNow shared configurationChanged serviceFailed).1 := by
  unfold ZoneController.commitOnCompensationNow
  split
  · exact compensated
  · rename_i session held
    have marked := markEstimated_unmoved session held
    have rolled := marked.trans
      ((controller.markEstimated session).rollDaily_quiet shared.calendar shared.now).unmoved
    have kept := compensated.of_unmoved rolled
    simp only
    split
    · exact kept
    · rename_i decision decided
      split
      · exact kept
      · obtain ⟨before, held', -⟩ := rolled.session_some_of held
        exact kept.adoptNow held' decided
          (fun acknowledged => compensationEvent_ne_clear acknowledged.1)
          compensationEvent_not_closing

theorem Compensated.compensate (compensated : Compensated operation controller)
    (shared : SharedState) (configurationChanged serviceFailed : Bool) :
    Compensated operation (controller.compensate shared configurationChanged serviceFailed) := by
  have committed := compensated.commitOnCompensationNow shared configurationChanged serviceFailed
  simp only [ZoneController.compensate]
  split
  · exact committed.of_unmoved (.of_fields rfl rfl rfl rfl rfl (.inl rfl))
  · exact committed.of_unmoved (ensureOffOperation_unmoved _ true)

/-! ## Steps -/

theorem turnOn_not_ahead {event : ControllerEvent} (applier : Applier) (sessionId : String)
    (idle : StateMachine.mayStart event = false) :
    turnOn ∉ (controller.decideAndApply shared event applier sessionId).ahead := by
  rcases controller.decideAndApply_cases shared event applier sessionId with
    ⟨raised, applied⟩ | ⟨decision, effect, -, applied⟩
  · rw [applied, (afterApply_sameCore _ applier raised).2]
    exact List.not_mem_nil
  · rw [applied]
    cases effect with
    | starts _ _ _ _ _ allowed => exact absurd allowed.1 (by simp [buildInput, idle])
    | clears _ _ _ quiet => exact quiet
    | updates _ _ _ _ _ _ _ quiet => exact quiet
    | keeps _ _ quiet => exact quiet

/-- No acknowledgement is accepted while a session is open. -/
def NotAcknowledged (controller : ZoneController) (shared : SharedState) : Prop :=
  controller.session.isSome = true → ∀ sessionId, ¬ StateMachine.Acknowledged
    ((controller.rollDaily shared.calendar shared.now).buildInput shared .clearFaultRequested
      sessionId)

/-- Every step keeps the session compensated, until another session starts. -/
theorem closed_compensated :
    Closed (Compensated operation) (fun _ => True) (fun controller => controller.session.isSome)
      (fun _ => True) NotAcknowledged where
  stable opened session _ _ := session ▸ opened
  quiet compensated quiet := compensated.of_unmoved quiet.unmoved
  released compensated _ := compensated.of_unmoved
    (.of_fields rfl rfl rfl rfl rfl (.inr (by simp [AppliesOff])))
  took compensated _ commands := compensated.of_unmoved
    (.of_fields rfl rfl rfl rfl rfl (.inr (not_appliesOff_of_commands commands)))
  observed _ _ _ compensated _ :=
    compensated.of_unmoved (.of_fields rfl rfl rfl rfl rfl (.inl rfl))
  taken compensated _ := compensated.of_unmoved (.of_fields rfl rfl rfl rfl rfl (.inl rfl))
  proving _ compensated _ _ _ := compensated.of_unmoved
    (.of_fields rfl rfl rfl rfl rfl (.inr (by simp [AppliesOff])))
  proven {controller shared change active} sessionId compensated locked _ := by
    have released : Compensated operation { controller with locked := none } :=
      compensated.of_unmoved (.of_fields rfl rfl rfl rfl rfl (.inr (by simp [AppliesOff])))
    exact released.decideAndApply sessionId (by simp)
      (fun starts => absurd starts (turnOn_not_ahead _ _ rfl)) (by simp)
  offReturned reading compensated _ _ :=
    compensated.of_unmoved (offServiceReturned_unmoved _ _ _ reading)
  offEnded compensated _ _ := compensated.of_unmoved (offProofEnded_unmoved _ _ _)
  offAborted compensated _ _ := compensated.of_unmoved (setOffPhase_unmoved _ (by simp))
  offSettled {controller shared settled confirmedAt} sessionId compensated _ _ phase := by
    have dispatching : Compensated operation
        (controller.setOffPhase settled (.dispatching confirmedAt)) :=
      compensated.of_unmoved (setOffPhase_unmoved settled (by simp))
    have phase' : (controller.setOffPhase settled (.dispatching confirmedAt)).offOperations[settled]?.map
        OffOperation.phase = some (.dispatching confirmedAt) := by
      obtain ⟨current, found, -⟩ := Option.map_eq_some_iff.mp phase
      simp [setOffPhase, found]
    refine dispatching.decideAndApply sessionId (by cases confirmedAt <;> simp)
      (fun starts => absurd starts (turnOn_not_ahead _ _ (by cases confirmedAt <;> rfl)))
      fun other same => ?_
    obtain rfl := Applier.offOperation.inj same
    refine ⟨?_, .inl ⟨confirmedAt, phase'⟩⟩
    cases confirmedAt with
    | none => exact .inl rfl
    | some offAt => exact .inr ⟨offAt, rfl⟩
  offRecovered sessionId compensated _ _ _ :=
    compensated.decideAndApply sessionId (by simp)
      (fun starts => absurd starts (turnOn_not_ahead _ _ rfl)) fun _ _ => ⟨.inl rfl, .inr rfl⟩
  decided sessionId compensated _ _ _ _ clears own starts :=
    compensated.decideAndApply sessionId (fun clear opened => clear ▸ clears clear opened) starts
      fun other same => absurd same (own other)
  dispatched _ compensated _ _ _ _ _ :=
    compensated.of_unmoved (.of_fields rfl rfl rfl rfl rfl (.inl rfl))
  compensated shared changed failed compensated _ := compensated.compensate shared changed failed
  ensured compensated _ := compensated.of_unmoved (ensureOffOperation_unmoved _ false)
  begun compensated := compensated.of_unmoved (beginOffOperation_unmoved _)
  recorded marker compensated := compensated.of_unmoved (recordPossibleCommand_unmoved marker)
  failed compensated _ := compensated.handlePersistFailure

/-! ## Entering a compensation -/

/-- The termination that is committed at once is not ignored: authority over the
configuration is lost, or the sensor of an AUTO pulse has failed, or the pulse has not been
confirmed yet and the event is not the report of a merely stale sensor. -/
def TerminationTakes (controller : ZoneController) (now : Instant) (session : SessionContext)
    (configurationChanged serviceFailed : Bool) : Prop :=
  configurationChanged = true ∨
    (serviceFailed = false ∧ session.mode = .auto ∧ controller.armedWatchdog.isSome = true ∧
      (session.sensorFreshUntilUtc.any (fun freshUntil => decide (freshUntil ≤ now)) = true ∨
        controller.observation.classification = .invalid ∨
        controller.observation.classification = .unavailable)) ∨
    ((serviceFailed = true ∨ session.mode = .manual ∨ controller.armedWatchdog = none ∨
        controller.observation.classification = .valid) ∧ session.pulseConfirmedAtUtc = none)

/-- The compensated session is committed already, or its termination takes; and OFF is
still to be delivered. -/
structure CompensationTakes (controller : ZoneController) (now : Instant)
    (session : SessionContext) (configurationChanged serviceFailed : Bool) : Prop where
  commits : StateMachine.Committed controller.state controller.activeFault session ∨
    (controller.state = .watering ∧ session.pendingTerminationReason = none ∧
      controller.TerminationTakes now session configurationChanged serviceFailed)
  running : controller.state = .watering → ∀ operation, controller.currentOffOperation = some operation →
    operation.joinable controller.assessment.provenOff = true → operation.isDone = false

def recheckCompensation (controller : ZoneController) (shared : SharedState) (marker : InFlightOn)
    (authority : OnAuthority) (serviceFailed : Bool) : Option (ZoneController × Bool × Bool) :=
  let authorization := controller.evaluateOnAuthority shared marker.sessionId false authority
  if serviceFailed ∨ authorization.authorized = false then
    some (controller.quiesceIf authorization.requiresQuiescing,
      !authorization.configurationAuthorityValid, serviceFailed)
  else none

/-- How `_perform_on` can give up an ON command: in one of its steps, or because its task is
cancelled, which is not a step of the system. -/
inductive OnLoss where
  | step (label : ControllerLabel)
  | cancelled (authority : OnAuthority)

/-- The handler of a cancelled ON command, after it has released a lock it held. -/
def cancelledOn (controller : ZoneController) (shared : SharedState) (marker : InFlightOn)
    (authority : OnAuthority) : ZoneController × Bool × Bool :=
  let recorded := controller.recordPossibleCommand marker
  let authorization := recorded.evaluateOnAuthority shared marker.sessionId false authority
  (recorded.quiesceIf authorization.requiresQuiescing,
    !authorization.configurationAuthorityValid, true)

/-- The compensation branches of `_perform_on`: the controller that is compensated, whether
its configuration has changed, and whether the service failed. -/
def compensation (controller : ZoneController) (shared : SharedState) :
    OnLoss → Option (ZoneController × Bool × Bool)
  | .step (.serviceReturned raised authority) =>
    match controller.sessionTask, controller.inflightOn with
    | some .commanding, some marker =>
      (controller.recordPossibleCommand marker).recheckCompensation shared marker authority raised
    | _, _ => none
  | .step (.reenter authority) =>
    match controller.sessionTask, controller.locked, controller.inflightOn with
    | some .reentering, none, some marker =>
      controller.recheckCompensation shared marker authority false
    | _, _, _ => none
  | .step (.anchor saved) =>
    match controller.sessionTask, controller.locked with
    | some .anchoring, some .persistingCommand =>
      let rolled := controller.rollDaily shared.calendar shared.now
      match rolled.persist shared.store saved with
      | .error (.storeWriteVerification _) =>
        some ({ rolled with locked := none }.handlePersistFailure, false, true)
      | _ => none
    | _, _ => none
  | .step (.recheck authority) =>
    match controller.sessionTask, controller.locked, controller.inflightOn with
    | some .anchoring, some (.rechecking _), some marker =>
      { controller with locked := none }.recheckCompensation shared marker authority false
    | _, _, _ => none
  | .step _ => none
  | .cancelled authority =>
    match controller.sessionTask, controller.inflightOn with
    | some .reentering, some marker | some (.awaitingOff _ true), some marker =>
      some (controller.cancelledOn shared marker authority)
    | some .anchoring, some marker =>
      some ({ controller with locked := none }.cancelledOn shared marker authority)
    | _, _ => none

theorem recheckOn_of_compensation {marker : InFlightOn} {authority : OnAuthority}
    {serviceFailed changed failed : Bool} {continued : ZoneController → ZoneController}
    {held : ZoneController}
    (branch : controller.recheckCompensation shared marker authority serviceFailed =
      some (held, changed, failed)) :
    controller.recheckOn shared marker authority serviceFailed continued =
      held.compensate shared changed failed := by
  simp only [recheckCompensation, Option.ite_none_right_eq_some, Option.some.injEq,
    Prod.mk.injEq] at branch
  obtain ⟨enters, rfl, rfl, rfl⟩ := branch
  simp only [ZoneController.recheckOn, if_pos enters]

theorem step_of_compensation {label : ControllerLabel} (sessionId : String)
    {held : ZoneController} {changed failed : Bool}
    (branch : controller.compensation shared (.step label) = some (held, changed, failed)) :
    controller.step shared label sessionId = some (held.compensate shared changed failed, shared) := by
  cases label with
  | serviceReturned raised authority =>
    simp only [compensation] at branch
    split at branch
    · rename_i marker task inflight
      simp only [ZoneController.step, sessionStep, task, inflight, recheckOn_of_compensation branch]
    · cases branch
  | reenter authority =>
    simp only [compensation] at branch
    split at branch
    · rename_i marker task unlocked inflight
      simp only [ZoneController.step, sessionStep, task, unlocked, inflight,
        recheckOn_of_compensation branch]
    · cases branch
  | anchor saved =>
    simp only [compensation] at branch
    split at branch
    · rename_i task locked
      split at branch
      · rename_i message persisted
        simp only [Option.some.injEq, Prod.mk.injEq] at branch
        obtain ⟨rfl, rfl, rfl⟩ := branch
        simp only [ZoneController.step, sessionStep, task, locked, ZoneController.anchor, persisted]
      · cases branch
    · cases branch
  | recheck authority =>
    simp only [compensation] at branch
    split at branch
    · rename_i confirmed marker task locked inflight
      have same : ({ controller with locked := none } : ZoneController).recheckOn shared marker
          authority false
          (fun continued => continued.afterRecheck shared marker confirmed sessionId) =
          held.compensate shared changed failed := recheckOn_of_compensation branch
      rw [← same]
      simp only [ZoneController.step, sessionStep, task, locked, inflight]
    · cases branch
  | _ => cases branch

theorem recheckCompensation_away {marker : InFlightOn} {authority : OnAuthority}
    {serviceFailed : Bool} {compensated : ZoneController × Bool × Bool}
    (away : controller.AppliesAway)
    (branch : controller.recheckCompensation shared marker authority serviceFailed =
      some compensated) : compensated.1.AppliesAway := by
  simp only [recheckCompensation, Option.ite_none_right_eq_some, Option.some.injEq] at branch
  obtain ⟨-, rfl⟩ := branch
  exact away.of_unmoved (controller.quiesceIf_quiet _).unmoved

theorem cancelledOn_away (away : controller.AppliesAway) (marker : InFlightOn)
    (authority : OnAuthority) :
    (controller.cancelledOn shared marker authority).1.AppliesAway :=
  (away.of_unmoved (recordPossibleCommand_unmoved marker)).of_unmoved
    (quiesceIf_quiet _ _).unmoved

/-- The controller that is compensated applies outcomes away, as the one before did. -/
theorem compensation_away {loss : OnLoss} {compensated : ZoneController × Bool × Bool}
    (away : controller.AppliesAway)
    (branch : controller.compensation shared loss = some compensated) :
    compensated.1.AppliesAway := by
  have released : ({ controller with locked := none } : ZoneController).AppliesAway :=
    away.of_unmoved (.of_fields rfl rfl rfl rfl rfl (.inr (by simp [AppliesOff])))
  unfold compensation at branch
  split at branch
  · split at branch
    · exact recheckCompensation_away (away.of_unmoved (recordPossibleCommand_unmoved _)) branch
    · cases branch
  · split at branch
    · exact recheckCompensation_away away branch
    · cases branch
  · split at branch
    · simp only at branch
      split at branch
      · obtain rfl := Option.some.inj branch
        intro _ _ watering
        simp [(handlePersistFailure_fields _).1] at watering
      · cases branch
    · cases branch
  · split at branch
    · exact recheckCompensation_away released branch
    · cases branch
  · cases branch
  · split at branch
    · obtain rfl := Option.some.inj branch
      exact cancelledOn_away away _ _
    · obtain rfl := Option.some.inj branch
      exact cancelledOn_away away _ _
    · obtain rfl := Option.some.inj branch
      exact cancelledOn_away released _ _
    · cases branch

/-! ## The termination that is committed at once -/

/-- What a compensation may decide; only an AUTO session replays a report. -/
inductive IsCompensation (mode : SessionMode) : ControllerEvent → Prop where
  | changed : IsCompensation mode .configChangedPrepare
  | timeout : IsCompensation mode .onConfirmTimeout
  | watchdog (token : WatchdogToken) : IsCompensation mode (.watchdogFired token)
  | report (observation : MoistureObservation) : mode = .auto →
      IsCompensation mode (.moistureReport observation)

theorem compensationEvent_isCompensation {now : Instant} {session : SessionContext}
    {configurationChanged serviceFailed : Bool} :
    IsCompensation session.mode
      (controller.compensationEvent now session configurationChanged serviceFailed) := by
  unfold compensationEvent
  split
  · exact .changed
  · split
    · exact .timeout
    · split
      · rename_i auto _
        split
        · exact .watchdog _
        · split
          · exact .report _ auto
          · exact .timeout
      · exact .timeout

theorem decide_of_committed {input : TransitionInput} {session : SessionContext}
    (held : input.session = some session)
    (committed : StateMachine.Committed input.state input.activeFault session)
    (event : IsCompensation session.mode input.event) :
    StateMachine.decide input = .ok StateMachine.noOp := by
  obtain ⟨reason, pending, -⟩ := committed.reason
  generalize replayed : input.event = replay at event
  rcases committed.resting with watering | ⟨fault | disabled, latched⟩
  · cases event with
    | changed | timeout | watchdog =>
      simp [StateMachine.decide, StateMachine.decideWatering, StateMachine.watchdogFiredRow,
        replayed, watering, held, pending]
    | report observation auto =>
      simp [StateMachine.decide, StateMachine.decideWatering, StateMachine.wateringMoisture,
        replayed, watering, held, pending, auto]
  · obtain ⟨code, latched⟩ := Option.isSome_iff_exists.mp latched
    cases event <;>
      simp [StateMachine.decide, StateMachine.decideFault, StateMachine.faultAutoClearCheck,
        replayed, fault, held, latched]
  · cases event <;>
      simp [StateMachine.decide, StateMachine.decideDisabled, replayed, disabled]

/-- The termination that takes commits its reason. -/
theorem decide_of_terminationTakes {session marked : SessionContext} {now : Instant}
    {configurationChanged serviceFailed : Bool} {input : TransitionInput}
    (takes : controller.TerminationTakes now session configurationChanged serviceFailed)
    (event : input.event = controller.compensationEvent now session configurationChanged
      serviceFailed)
    (held : input.session = some marked) (watering : input.state = .watering)
    (pending : marked.pendingTerminationReason = none)
    (mode : marked.mode = session.mode)
    (confirmed : marked.pulseConfirmedAtUtc = session.pulseConfirmedAtUtc)
    (freshUntil : marked.sensorFreshUntilUtc = session.sensorFreshUntilUtc)
    (armed : input.armedWatchdog = controller.armedWatchdog) (clock : input.nowUtc = now) :
    ∃ reason fault defensive, reason ≠ .manualComplete ∧ StateMachine.decide input =
      .ok (StateMachine.commitTermination marked reason fault defensive) := by
  -- The last resort: a pulse that was not confirmed.
  have timeout : input.event = .onConfirmTimeout → session.pulseConfirmedAtUtc = none →
      ∃ reason fault defensive, reason ≠ .manualComplete ∧ StateMachine.decide input =
        .ok (StateMachine.commitTermination marked reason fault defensive) := fun event open' =>
    ⟨.actuatorFault, some .actuatorOnTimeout, true, by simp, by
      simp [StateMachine.decide, StateMachine.decideWatering, event, watering, held, pending,
        confirmed, open']⟩
  -- The branches of the event in their order; each has its own reason.
  unfold compensationEvent at event
  split at event
  · exact ⟨.configChanged, none, false, by simp, by
      simp [StateMachine.decide, StateMachine.decideWatering, event, watering, held, pending]⟩
  · rename_i unchanged
    split at event
    · rename_i failed
      rcases takes with changed | ⟨returned, -⟩ | ⟨-, open'⟩
      · exact absurd changed unchanged
      · simp [failed] at returned
      · exact timeout event open'
    · rename_i returned
      split at event
      · rename_i token auto watchdog
        split at event
        · rename_i expired
          obtain ⟨until', deadline, passed⟩ := (Option.any_eq_true _ _).mp expired
          have passed : ¬ now < until' := not_lt.mpr (of_decide_eq_true passed)
          exact ⟨.sensorFault, some .sensorStale, false, by simp, by
            simp [StateMachine.decide, StateMachine.decideWatering, StateMachine.watchdogFiredRow,
              event, watering, held, pending, mode, auto, armed, watchdog, freshUntil, deadline,
              clock, passed]⟩
        · rename_i fresh
          split at event
          · rename_i invalid
            -- The observation is delivered as a report.
            have report : ∀ fault, controller.observation.classification = .invalid ∧
                  fault = .sensorInvalid ∨ controller.observation.classification = .unavailable ∧
                  fault = .sensorUnavailable →
                StateMachine.decide input = .ok (StateMachine.commitTermination marked .sensorFault
                  (some fault)) := by
              rintro fault (⟨class', rfl⟩ | ⟨class', rfl⟩) <;>
                simp [StateMachine.decide, StateMachine.decideWatering,
                  StateMachine.wateringMoisture, event, watering, held, pending, mode, auto, class']
            rcases takes with changed | ⟨-, -, -, expired | class' | class'⟩ | ⟨kind, open'⟩
            · exact absurd changed unchanged
            · exact absurd expired fresh
            · exact ⟨_, _, _, by simp, report _ (.inl ⟨class', rfl⟩)⟩
            · exact ⟨_, _, _, by simp, report _ (.inr ⟨class', rfl⟩)⟩
            · rcases kind with failed | manual | none' | valid
              · exact absurd failed returned
              · simp [auto] at manual
              · simp [watchdog] at none'
              · exact absurd valid invalid
          · rename_i valid
            rcases takes with changed | ⟨-, -, -, expired | class' | class'⟩ | ⟨-, open'⟩
            · exact absurd changed unchanged
            · exact absurd expired fresh
            · simp [class'] at valid
            · simp [class'] at valid
            · exact timeout event open'
      · rename_i manual
        rcases takes with changed | ⟨-, auto, armed', -⟩ | ⟨-, open'⟩
        · exact absurd changed unchanged
        · obtain ⟨token, watchdog⟩ := Option.isSome_iff_exists.mp armed'
          exact absurd watchdog (manual token auto)
        · exact timeout event open'

structure CommitsNow (controller next : ZoneController) : Prop where
  session : ∃ after, next.session = some after ∧
    StateMachine.Committed next.state next.activeFault after
  state : next.state = controller.state
  offOperation : next.offOperation = controller.offOperation
  offOperations : next.offOperations = controller.offOperations
  assessment : next.assessment = controller.assessment
  locked : next.locked = controller.locked

theorem markEstimated_frame (session : SessionContext) (held : controller.session = some session) :
    Frame controller (controller.markEstimated session) ∧
      (controller.markEstimated session).state = controller.state ∧
      (controller.markEstimated session).activeFault = controller.activeFault ∧
      ∃ marked, (controller.markEstimated session).session = some marked ∧
        marked.pendingTerminationReason = session.pendingTerminationReason ∧
        marked.mode = session.mode ∧
        marked.pulseConfirmedAtUtc = session.pulseConfirmedAtUtc ∧
        marked.sensorFreshUntilUtc = session.sensorFreshUntilUtc := by
  unfold markEstimated
  split
  · exact ⟨.refl _, rfl, rfl, session, held, rfl, rfl, rfl, rfl⟩
  · exact ⟨by constructor <;> rfl, rfl, rfl, _, rfl, rfl, rfl, rfl, rfl⟩

/-- Where the termination takes, the compensation commits it and does not raise. -/
theorem commitOnCompensationNow_takes {session : SessionContext}
    {configurationChanged serviceFailed : Bool} (held : controller.session = some session)
    (takes : controller.CompensationTakes shared.now session configurationChanged serviceFailed) :
    ∃ next, controller.commitOnCompensationNow shared configurationChanged serviceFailed =
      (next, false) ∧ controller.CommitsNow next := by
  obtain ⟨frame, state, fault, marked, marked', pending, mode, confirmed, freshUntil⟩ :=
    markEstimated_frame session held
  have rolled := (controller.markEstimated session).rollDaily_sameDecided shared.calendar shared.now
  have opened := rolled.session.trans marked'
  have operations := rolled.offOperations.trans frame.offOperations
  unfold ZoneController.commitOnCompensationNow
  simp only [held]
  rcases takes.commits with committed | ⟨watering, open', terminates⟩
  · have committed' : StateMachine.Committed
        ((controller.markEstimated session).rollDaily shared.calendar shared.now).state
        ((controller.markEstimated session).rollDaily shared.calendar shared.now).activeFault
        marked := by
      rw [rolled.state, state, rolled.activeFault, fault]
      exact committed_congr committed pending
    have ignored : StateMachine.decide
        (((controller.markEstimated session).rollDaily shared.calendar shared.now).buildInput shared
          (controller.compensationEvent shared.now session configurationChanged serviceFailed) "") =
        .ok StateMachine.noOp :=
      decide_of_committed opened committed' (mode ▸ compensationEvent_isCompensation)
    refine ⟨_, by simp only [ignored]; rfl, ⟨marked, opened, committed'⟩, rolled.state.trans state,
      rolled.offOperation.trans frame.offOperation, operations,
      rolled.assessment.trans frame.assessment, rolled.locked.trans frame.locked⟩
  · obtain ⟨reason, fault', defensive, notManual, commits⟩ :
        ∃ reason fault' defensive, reason ≠ .manualComplete ∧ StateMachine.decide
          (((controller.markEstimated session).rollDaily shared.calendar shared.now).buildInput
            shared (controller.compensationEvent shared.now session configurationChanged
              serviceFailed) "") =
          .ok (StateMachine.commitTermination marked reason fault' defensive) :=
      decide_of_terminationTakes terminates rfl opened (rolled.state.trans (state.trans watering))
        (pending.trans open') mode confirmed freshUntil
        (rolled.armedWatchdog.trans frame.armedWatchdog) rfl
    obtain ⟨adopted, session', state'⟩ := adoptNow_spec
      ((controller.markEstimated session).rollDaily shared.calendar shared.now)
      (StateMachine.commitTermination marked reason fault' defensive)
    have stays := state'.trans (rolled.state.trans state)
    have accepted : ((StateMachine.commitTermination marked reason fault' defensive).actions.any
        fun action => !isCompensationAction action) = false := by
      cases fault' <;> rfl
    refine ⟨_, by simp only [commits]; exact Prod.ext rfl accepted,
      ⟨_, session', ⟨reason, rfl, notManual⟩, .inl (stays.trans watering)⟩, stays, ?_, ?_, ?_, ?_⟩
    · exact adopted.offOperation.trans (rolled.offOperation.trans frame.offOperation)
    · exact adopted.offOperations.trans operations
    · exact adopted.assessment.trans (rolled.assessment.trans frame.assessment)
    · exact adopted.locked.trans (rolled.locked.trans frame.locked)

/-- The OFF operation that is waited for is a fresh one, or a joinable one. -/
theorem ensureOffOperation_joins (requestedFor : Option PulseId) (compensating : Bool) :
    ∃ operation, (controller.ensureOffOperation requestedFor compensating).sessionTask =
        some (.awaitingOff operation compensating) ∧
      ((controller.ensureOffOperation requestedFor compensating).Delivered operation →
        ∃ current, controller.currentOffOperation = some current ∧
          current.joinable controller.assessment.provenOff = true ∧ current.isDone = true) := by
  simp only [ensureOffOperation, beginOffOperation]
  split
  · rename_i joined
    obtain ⟨current, found, joinable⟩ := (Option.any_eq_true _ _).mp joined
    obtain ⟨operation, refers, found'⟩ := Option.bind_eq_some_iff.mp found
    have refers : controller.offOperation = some operation := refers
    refine ⟨operation, by simp [refers], fun delivered => ⟨current, found, joinable, ?_⟩⟩
    obtain ⟨other, same, done⟩ := delivered
    obtain rfl := Option.some.inj (found'.symm.trans same)
    exact done
  · refine ⟨controller.offOperations.length, rfl, fun delivered => ?_⟩
    obtain ⟨other, same, done⟩ := delivered
    simp only [newOffOperation, List.getElem?_concat_length, Option.some.injEq] at same
    subst same
    cases done

/-- Where it takes, a compensation waits for an OFF operation with its session committed. -/
theorem compensate_takes {session : SessionContext} {configurationChanged serviceFailed : Bool}
    (held : controller.session = some session) (away : controller.AppliesAway)
    (takes : controller.CompensationTakes shared.now session configurationChanged serviceFailed) :
    ∃ operation, (controller.compensate shared configurationChanged serviceFailed).sessionTask =
        some (.awaitingOff operation true) ∧
      Compensated operation (controller.compensate shared configurationChanged serviceFailed) := by
  obtain ⟨committed, result, commits⟩ := commitOnCompensationNow_takes held takes
  have compensates : controller.compensate shared configurationChanged serviceFailed =
      committed.ensureOffOperation (committed.session.map SessionContext.pulse) true := by
    simp [ZoneController.compensate, result]
  rw [compensates]
  obtain ⟨operation, waits, joins⟩ :=
    committed.ensureOffOperation_joins (committed.session.map SessionContext.pulse) true
  have same : Unmoved committed _ :=
    ensureOffOperation_unmoved (committed.session.map SessionContext.pulse) true
  obtain ⟨after, opened, isCommitted⟩ := commits.session
  refine ⟨operation, waits, fun other held' => ?_, fun closed => ?_,
    fun delivered _ watering => ?_, fun other applies watering => ?_⟩
  · obtain ⟨before, held'', reason⟩ := same.session_some held'
    obtain rfl := Option.some.inj (opened.symm.trans held'')
    rw [same.state, same.activeFault]
    exact committed_congr isCommitted reason
  · simp [same.session_none.mp closed] at opened
  · have watering := commits.state.symm.trans (same.state.symm.trans watering)
    obtain ⟨current, found, joinable, done⟩ := joins delivered
    have found : controller.currentOffOperation = some current := by
      simpa only [currentOffOperation, commits.offOperation, commits.offOperations] using found
    simp [takes.running watering current found (commits.assessment ▸ joinable)] at done
  · obtain ⟨decision, input, rest, locked⟩ := same.applies other applies
    exact away other ⟨decision, input, rest, commits.locked ▸ locked⟩
      (commits.state.symm.trans (same.state.symm.trans watering))

theorem AppliesAway.step {next : ZoneController} {shared' : SharedState} {label : ControllerLabel}
    {sessionId : String} (away : controller.AppliesAway)
    (stepped : controller.step shared label sessionId = some (next, shared')) :
    next.AppliesAway :=
  closed_appliesAway.step trivial away (fun saved _ _ _ _ _ locked => away.act saved locked)
    (.inr fun _ changed failed away => away.compensate changed failed) (fun _ _ => trivial)
    (fun _ _ _ _ _ => trivial) (fun _ => trivial)
    (fun _ _ => away.of_unmoved (.of_fields rfl rfl rfl rfl rfl (.inl rfl))) stepped

/-- What the compensation of an ON command comes to: the session does not soak, it is not
completed, and with the OFF operation ended it is closed or faulted with its reason. -/
structure CompensationEnds (operation : Nat) (controller : ZoneController) : Prop where
  soaking : controller.session.isSome = true → controller.state ≠ .soaking
  completed : controller.session = none → ∃ reason,
    controller.lastSummary.map SessionSummary.reason = some reason ∧ reason ≠ .manualComplete
  delivered : controller.Delivered operation → ∀ session, controller.session = some session →
    (controller.state = .fault ∨ controller.state = .disabled) ∧
      controller.activeFault.isSome = true ∧ session.pendingTerminationReason.isSome = true

theorem Compensated.ends (compensated : Compensated operation controller) :
    CompensationEnds operation controller := by
  refine ⟨fun opened => ?_, compensated.closed, fun delivered session held => ?_⟩
  · obtain ⟨session, held⟩ := Option.isSome_iff_exists.mp opened
    exact (compensated.committed session held).ne_soaking
  · have committed := compensated.committed session held
    obtain ⟨reason, pending, -⟩ := committed.reason
    rcases committed.resting with watering | ⟨away, latched⟩
    · exact absurd watering (compensated.delivered delivered (by simp [held]))
    · exact ⟨away, latched, by simp [pending]⟩

end ZoneController

/-! ## Runs after a compensation -/

namespace Entry

variable {κ : Type} [DecidableEq κ] {entry next start before finish : Entry κ}
  {label : EntryLabel κ} {key : κ}

theorem appliesAway_of_run (reached : system.Run (fun _ _ _ => True) start finish)
    (unlocked : (start.controllers key).locked = none) :
    (finish.controllers key).AppliesAway := by
  induction reached with
  | refl =>
    rintro operation ⟨decision, input, rest, locked⟩
    simp [unlocked] at locked
  | step _ _ stepped _ away =>
    rcases step_cases stepped with
      ⟨acting, label', sessionId, controller, shared, rfl, moved, rfl⟩ | moved
    · by_cases same : key = acting
      · subst same
        simpa using away.step moved
      · simpa [Function.update_of_ne same] using away
    · rw [moved.controllers]
      exact away

/-- The zone starts no further session, and no fault is acknowledged while the session is
open. -/
def SessionLasts (key : κ) (entry : Entry κ) (label : EntryLabel κ) (next : Entry κ) : Prop :=
  (∀ sessionId, label = .controller key (.dispatch .clearFaultRequested) sessionId →
    (entry.controllers key).NotAcknowledged entry.shared) ∧
  (turnOn ∈ (next.controllers key).ahead → turnOn ∉ (entry.controllers key).ahead →
    (entry.controllers key).session.isSome = true)

theorem compensated_step {operation : Nat}
    (compensated : (entry.controllers key).Compensated operation)
    (stepped : entry.step label = some next) (lasts : SessionLasts key entry label next) :
    (next.controllers key).Compensated operation := by
  rcases step_cases stepped with
    ⟨acting, label', sessionId, controller, shared, rfl, moved, rfl⟩ | moved
  · by_cases same : key = acting
    · subst same
      obtain ⟨clears, starts⟩ := lasts
      simp only [Function.update_self] at starts ⊢
      refine ZoneController.closed_compensated.step trivial compensated
        (fun saved _ _ _ _ _ locked => compensated.act saved locked)
        (.inr fun _ changed failed compensated => compensated.compensate _ changed failed) starts
        (fun _ _ _ _ _ => trivial) (fun clear => ?_)
        (fun _ _ => compensated.of_unmoved (.of_fields rfl rfl rfl rfl rfl (.inl rfl))) moved
      subst clear
      have shared' : shared = entry.shared := by
        simp only [ZoneController.step] at moved
        split at moved
        · exact (Prod.mk.inj (Option.some.inj moved)).2.symm
        · cases moved
      exact shared' ▸ clears sessionId rfl
    · simpa [Function.update_of_ne same] using compensated
  · rw [moved.controllers]
    exact compensated

/-- The entry in which an ON command has just been compensated. -/
def compensate (entry : Entry κ) (key : κ) (held : ZoneController)
    (configurationChanged serviceFailed : Bool) : Entry κ :=
  let compensated := held.compensate entry.shared configurationChanged serviceFailed
  { entry with controllers := Function.update entry.controllers key compensated }

/-- Where the termination takes, the compensated session never soaks and is never completed,
and the OFF operation leaves it closed or faulted. -/
theorem compensationEnds_of_run {loss : ZoneController.OnLoss} {held : ZoneController}
    {session : SessionContext} {configurationChanged serviceFailed : Bool}
    (reached : system.Run (fun _ _ _ => True) start before)
    (unlocked : (start.controllers key).locked = none)
    (branch : (before.controllers key).compensation before.shared loss =
      some (held, configurationChanged, serviceFailed))
    (opened : held.session = some session)
    (takes : held.CompensationTakes before.shared.now session configurationChanged serviceFailed)
    (lasts : system.Run (SessionLasts key)
      (before.compensate key held configurationChanged serviceFailed) finish) :
    ∃ operation, ((before.compensate key held configurationChanged serviceFailed).controllers
        key).sessionTask = some (.awaitingOff operation true) ∧
      (finish.controllers key).CompensationEnds operation := by
  have away := ZoneController.compensation_away (appliesAway_of_run reached unlocked) branch
  obtain ⟨operation, waits, compensated⟩ := ZoneController.compensate_takes opened away takes
  refine ⟨operation, by simpa [compensate] using waits, ?_⟩
  have kept : (finish.controllers key).Compensated operation :=
    lasts.preserves (by simpa [compensate] using compensated)
      fun _ _ _ compensated stepped lasts => compensated_step compensated stepped lasts
  exact kept.ends

/-- Whether a step neither acknowledges a fault nor starts a further session. -/
def lastsCheck (key : κ) (entry : Entry κ) (label : EntryLabel κ) (next : Entry κ) : Bool :=
  (match label with
    | .controller _ (.dispatch .clearFaultRequested) _ => false
    | _ => true) &&
  (decide (turnOn ∉ (next.controllers key).ahead) || (entry.controllers key).session.isSome)

omit [DecidableEq κ] in
theorem sessionLasts_of_lastsCheck (checked : lastsCheck key entry label next = true) :
    SessionLasts key entry label next := by
  simp only [lastsCheck, Bool.and_eq_true, Bool.or_eq_true, decide_eq_true_eq] at checked
  refine ⟨?_, fun starts _ => checked.2.resolve_left (not_not.mpr starts)⟩
  rintro sessionId rfl
  exact absurd checked.1 (by simp)

/-! ## A confirmed pulse that is compensated -/

private def switchedOff : ActuatorAssessment := ⟨true, true, false, Bool.and_false true⟩

private def switchedOn : ActuatorAssessment := ⟨true, false, true, Bool.false_and true⟩

/-- The ON of a manual session has been dispatched. -/
def manualOnLabels : List (EntryLabel Bool) :=
  let acts (count : Nat) : List ControllerLabel := List.replicate count (.act true)
  let bed : List (List ControllerLabel) :=
    [[.dispatch (.manualStartRequested (some 60))], acts 2,
      [.slotRequest, .slotResume, .slotOffer], acts 5, [.wake, .gate ⟨[], false, switchedOff⟩]]
  bed.flatten.map (.controller false · "manual")

/-- The ON is confirmed, and the other zone finds its actuator on before the recheck. -/
def confirmedOnLabels : List (EntryLabel Bool) :=
  let authority : OnAuthority := ⟨[], false, switchedOff⟩
  let acts (count : Nat) : List ControllerLabel := List.replicate count (.act true)
  let bed : List ControllerLabel := [.actuatorEvent switchedOn true true, .actuatorChange,
    .serviceReturned false authority, .reenter authority, .anchor true, .recheck authority]
  let lawn : List (List ControllerLabel) :=
    [[.actuatorEvent switchedOn true false, .actuatorChange], acts 3]
  manualOnLabels.append ((bed.map (.controller false · "")).append
    ((lawn.flatten.map (.controller true · "")).append ((acts 3).map (.controller false · ""))))

/-- The compensating OFF operation succeeds. -/
def compensatingOffLabels : List (EntryLabel Bool) :=
  let acts (count : Nat) : List ControllerLabel := List.replicate count (.act true)
  let bed : List (List ControllerLabel) :=
    [[.offServiceReturned 0 switchedOff, .offDispatch 0], acts 5]
  bed.flatten.map (.controller false · "")

/-- The service of a manual session raises, and OFF is confirmed. -/
theorem compensationEnds_of_run_serviceRaised :
    ∃ before held finish operation,
      system.run twoZones manualOnLabels = some before ∧
      (before.controllers false).compensation before.shared
        (.step (.serviceReturned true ⟨[], false, switchedOff⟩)) = some (held, false, true) ∧
      system.runWhile (lastsCheck false) (before.compensate false held false true)
        compensatingOffLabels = some finish ∧
      (finish.controllers false).CompensationEnds operation := by
  obtain ⟨before, executed, entered⟩ := (Option.any_eq_true _ _).mp
    (show ((system.run twoZones manualOnLabels).any fun before =>
      ((before.controllers false).compensation before.shared
        (.step (.serviceReturned true ⟨[], false, switchedOff⟩))).any fun compensated =>
        decide (compensated.2 = (false, true)) && decide (compensated.1.state = .watering) &&
        compensated.1.session.any (fun session => session.pendingTerminationReason.isNone &&
          session.pulseConfirmedAtUtc.isNone) &&
        compensated.1.currentOffOperation.isNone &&
        (system.runWhile (lastsCheck false) (before.compensate false compensated.1 false true)
          compensatingOffLabels).isSome) = true by decide +kernel)
  obtain ⟨⟨held, outcome⟩, branch, checked⟩ := (Option.any_eq_true _ _).mp entered
  simp only [Bool.and_eq_true, decide_eq_true_eq, Option.any_eq_true, Option.isNone_iff_eq_none,
    Option.isSome_iff_exists] at checked
  obtain ⟨⟨⟨⟨rfl, watering⟩, session, opened, pending, confirmed⟩, idle⟩, finish, ran⟩ := checked
  obtain ⟨operation, -, ends⟩ := compensationEnds_of_run (LabelledSystem.Run.of_run executed) rfl
    branch opened
    ⟨.inr ⟨watering, pending, .inr (.inr ⟨.inl rfl, confirmed⟩)⟩, by simp [idle]⟩
    (LabelledSystem.Run.of_runWhile (fun _ _ _ => sessionLasts_of_lastsCheck) ran)
  exact ⟨before, held, finish, operation, executed, branch, ran, ends⟩

/-- Compensating a confirmed ON commits nothing: the OFF operation completes the session. -/
theorem not_compensationEnds_confirmed :
    ¬ ∀ (before finish : Entry Bool) (loss : ZoneController.OnLoss) (held : ZoneController)
      (configurationChanged serviceFailed : Bool) (operation : Nat),
      system.Run (fun _ _ _ => True) twoZones before →
      (before.controllers false).compensation before.shared loss =
        some (held, configurationChanged, serviceFailed) →
      held.session.isSome = true →
      ((before.compensate false held configurationChanged serviceFailed).controllers
        false).sessionTask = some (.awaitingOff operation true) →
      system.Run (SessionLasts false)
        (before.compensate false held configurationChanged serviceFailed) finish →
      (finish.controllers false).CompensationEnds operation := by
  intro claimed
  obtain ⟨before, executed, entered⟩ := (Option.any_eq_true _ _).mp
    (show ((system.run twoZones confirmedOnLabels).any fun before =>
      ((before.controllers false).compensation before.shared
        (.step (.recheck ⟨[], false, switchedOff⟩))).any fun compensated =>
        decide (compensated.2 = (false, false)) && compensated.1.session.isSome &&
        decide (((before.compensate false compensated.1 false false).controllers
          false).sessionTask = some (.awaitingOff 0 true)) &&
        (system.runWhile (lastsCheck false) (before.compensate false compensated.1 false false)
          compensatingOffLabels).any fun finish =>
            (finish.controllers false).session.isNone &&
            decide ((finish.controllers false).lastSummary.map SessionSummary.reason =
              some .manualComplete)) = true by decide +kernel)
  obtain ⟨⟨held, outcome⟩, branch, checked⟩ := (Option.any_eq_true _ _).mp entered
  simp only [Bool.and_eq_true, decide_eq_true_eq, Option.any_eq_true,
    Option.isNone_iff_eq_none] at checked
  obtain ⟨⟨⟨rfl, opened⟩, waits⟩, finish, ran, closed, completed⟩ := checked
  obtain ⟨reason, named, notManual⟩ :=
    (claimed before finish _ held false false 0 (LabelledSystem.Run.of_run executed) branch opened
      waits (LabelledSystem.Run.of_runWhile (fun _ _ _ => sessionLasts_of_lastsCheck) ran)).completed
      closed
  exact notManual (Option.some.inj (named.symm.trans completed))

end Entry

end MoistureLoop
