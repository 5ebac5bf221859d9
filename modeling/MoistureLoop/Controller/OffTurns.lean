import MoistureLoop.Controller.OffMoves
import MoistureLoop.Controller.Shared

/-! # The steps of the task of one OFF operation

The controller's steps for the operation are its moves: the OFF service and its proof, the
dispatch of the outcome event, every action of its application, and its cancellation. -/

open MoistureLoop.Action

namespace MoistureLoop

/-! ## Applying OffConfirmed -/

namespace StateMachine

variable {inp : TransitionInput} {decision : Decision} {session : SessionContext}
  {confirmedAt : Instant}

/-- The decision stores the state and gives the slot back; if it closes the session, it also
withdraws the blocker of an unconfirmed OFF. -/
def StoresAndReleases (decision : Decision) : Prop :=
  (∃ tag, persistState tag ∈ decision.actions) ∧ releaseSlot ∈ decision.actions ∧
    (decision.clearSession = true →
      removeBlocker .integrationOffUnconfirmed ∈ decision.actions)

theorem closeOpenAccounting_stores (closed : closeOpenAccounting inp confirmedAt = .ok decision) :
    StoresAndReleases decision := by
  unfold closeOpenAccounting at closed
  split at closed
  · cases closed
  · split at closed
    · cases closed
    · obtain rfl := Except.ok.inj closed
      simp [StoresAndReleases]

theorem finalizeWatering_stores {reason : CompletionReason}
    (finalized : finalizeWatering inp session reason confirmedAt = .ok decision) :
    StoresAndReleases decision := by
  unfold finalizeWatering at finalized
  simp only at finalized
  split at finalized
  · obtain rfl := Except.ok.inj finalized
    unfold finalizeManualComplete
    simp only
    split
    · simp [StoresAndReleases]
    · split <;> simp [StoresAndReleases]
  · split at finalized
    · cases finalized
    · obtain rfl := Except.ok.inj finalized
      simp [StoresAndReleases]

/-- What OffConfirmed does in full: it stores the state and gives the slot back. -/
theorem offConfirmed_stores (event : inp.event = .offConfirmed confirmedAt)
    (decided : decide inp = .ok decision) : decision.noOp = true ∨ StoresAndReleases decision := by
  unfold decide at decided
  simp only [event] at decided
  have passive : Except.ok noOp = Except.ok (ε := DecideError) decision →
      decision.noOp = true := by
    intro same
    rw [← Except.ok.inj same]
    rfl
  cases state : inp.state with
  | idle =>
    simp only [state, decideIdle, event] at decided
    exact .inl (passive decided)
  | disabled =>
    simp only [state, decideDisabled, event] at decided
    split at decided
    · exact .inr (closeOpenAccounting_stores decided)
    · exact .inl (passive decided)
  | watering =>
    simp only [state, decideWatering, event] at decided
    split at decided
    · cases decided
    · split at decided
      · exact .inr (finalizeWatering_stores decided)
      · split at decided
        · obtain rfl := Except.ok.inj decided
          simp [pulseOffToSoaking, StoresAndReleases]
        · exact .inr (finalizeWatering_stores decided)
  | soaking =>
    simp only [state, decideSoaking, event] at decided
    split at decided
    · cases decided
    · split at decided
      · obtain rfl := Except.ok.inj decided
        simp [finalizeSoakingExternal, StoresAndReleases]
      · exact .inl (passive decided)
  | fault =>
    simp only [state, decideFault, event] at decided
    split at decided
    · exact .inr (closeOpenAccounting_stores decided)
    · exact .inl (passive decided)

end StateMachine

/-! ## What a step delivers -/

namespace ZoneController

def outcomeInput (controller : ZoneController) (shared : SharedState) (event : ControllerEvent)
    (sessionId : String) : TransitionInput :=
  (controller.rollDaily shared.calendar shared.now).buildInput shared event sessionId

/-- The outcome that a step has delivered to the end, one way or another. -/
def delivered (controller : ZoneController) (shared : SharedState) (operation : Nat)
    (label : ControllerLabel) (sessionId : String) : Option Delivery :=
  match label with
  | .offDispatch other =>
    if other = operation then
      ((controller.offPhase operation).bind OffPhase.outcome).bind fun event =>
        match StateMachine.decide (controller.outcomeInput shared event sessionId) with
        | .ok decision => if decision.noOp then some ⟨event.confirmsOff, .full⟩ else none
        | .error _ => none
    else none
  | .act saved =>
    match controller.outcomeApplying operation with
    | some (_, input, []) => some ⟨input.event.confirmsOff, .full⟩
    | some (_, input, action :: _) =>
      match (controller.applyAction shared action saved).2 with
      | none => none
      | some (.storeWriteVerification _) => some ⟨input.event.confirmsOff, .writeFailed⟩
      | some _ => some ⟨input.event.confirmsOff, .raised⟩
    | none => none
  | _ => none

/-! ## Cancellation -/

def releaseOutcome (controller : ZoneController) (operation : Nat) : ZoneController :=
  { controller with
    locked := if (controller.outcomeApplying operation).isSome then none else controller.locked }

/-- A `CancelledError` in `_complete_off_operation`: the first one is answered by the
recovery, one during the recovery escapes its `suppress(Exception)`. -/
def cancelOff (controller : ZoneController) (operation : Nat) :
    Option (ZoneController × Option Delivery × Bool) :=
  match controller.offPhase operation with
  | some (.commanding _) | some (.awaitingProof _) | some (.settling _) =>
    some (controller.setOffPhase operation .recovering, none, false)
  | some (.dispatching confirmedAt) =>
    some ((controller.releaseOutcome operation).setOffPhase operation .recovering,
      some ⟨confirmedAt.isSome, .cancelled⟩, false)
  | some .recovering =>
    some (controller.releaseOutcome operation,
      (controller.outcomeApplying operation).map fun _ => ⟨false, .cancelled⟩, true)
  | some (.done _) | none => none

def sessionHoldsLock (controller : ZoneController) : Bool :=
  match controller.locked with
  | some .persistingCommand | some (.rechecking _) | some (.applying _ _ _ .refusal)
  | some (.applying _ _ _ .confirmation) => true
  | _ => false

def releaseSession (controller : ZoneController) : ZoneController :=
  { controller with locked := if controller.sessionHoldsLock then none else controller.locked }

/-- A `CancelledError` in the session-owner task: after the ON was dispatched it is
compensated by the shared operation, unless it comes `again` while that is awaited. -/
def cancelSessionTask (controller : ZoneController) (shared : SharedState)
    (authority : OnAuthority) (again : Bool) : ZoneController :=
  let released := controller.releaseSession
  match controller.sessionTask, controller.inflightOn with
  | some .commanding, some marker | some .reentering, some marker | some .anchoring, some marker =>
    (released.recordPossibleCommand marker).recheckOn shared marker authority true id
  | some (.awaitingOff _ true), some marker =>
    if again then { released with sessionTask := none, inflightOn := none }
    else (released.recordPossibleCommand marker).recheckOn shared marker authority true id
  | _, _ => { released with sessionTask := none }

end ZoneController

namespace ZoneController

variable {operation : Nat} {controller : ZoneController} {shared : SharedState}
  {sessionId : String}

/-! ## The steps of the task -/

theorem releaseSession_offKept : OffKept operation controller controller.releaseSession := by
  unfold releaseSession
  by_cases holds : controller.sessionHoldsLock = true
  · refine .of_locked rfl ?_ (by simp [outcomeApplying, holds])
    unfold sessionHoldsLock at holds
    unfold outcomeApplying
    split at holds <;> simp_all
  · exact .of_fields rfl (by simp [holds])

theorem cancelSessionTask_offKept (authority : OnAuthority) (again : Bool) :
    OffKept operation controller (controller.cancelSessionTask shared authority again) := by
  have released : OffKept operation controller controller.releaseSession := releaseSession_offKept
  have rechecked : ∀ marker, OffKept operation controller
      ((controller.releaseSession.recordPossibleCommand marker).recheckOn shared marker authority
        true id) := by
    intro marker
    have recorded : OffKept operation controller.releaseSession
        (controller.releaseSession.recordPossibleCommand marker) := .of_fields rfl rfl
    exact (released.trans recorded).trans (recheckOn_offKept (.refl _))
  unfold cancelSessionTask
  simp only
  split
  · exact rechecked _
  · exact rechecked _
  · exact rechecked _
  · split
    · exact released.trans (.of_fields rfl rfl)
    · exact rechecked _
  · exact released.trans (.of_fields rfl rfl)

/-- The end of an application of the outcome. -/
theorem afterApply_own (raised : Bool) :
    (controller.afterApply (.offOperation operation) raised).offPhase operation =
        (controller.offPhase operation).map (OffPhase.afterDispatch · raised) ∧
      (controller.afterApply (.offOperation operation) raised).locked = none := by
  simp only [afterApply]
  split
  · rename_i absent
    exact ⟨by simp [offPhase, absent], rfl⟩
  · rename_i current found
    have phased : ({ controller with locked := none }.setOffPhase operation
        (current.phase.afterDispatch raised)).offPhase operation =
        (controller.offPhase operation).map (OffPhase.afterDispatch · raised) := by
      rw [offPhase_setOffPhase, if_pos rfl]
      simp [offPhase, found]
    split
    · exact ⟨phased, rfl⟩
    · exact ⟨phased, rfl⟩

/-- The dispatch of an outcome event raises, has nothing to do, or starts an application. -/
theorem decideAndApply_own (event : ControllerEvent) :
    let next := controller.decideAndApply shared event (.offOperation operation) sessionId
    (∃ err, StateMachine.decide (controller.outcomeInput shared event sessionId) = .error err ∧
      next.offPhase operation =
        (controller.offPhase operation).map (OffPhase.afterDispatch · true) ∧
      next.locked = none) ∨
    (∃ decision, StateMachine.decide (controller.outcomeInput shared event sessionId) =
        .ok decision ∧ decision.noOp = true ∧
      next.offPhase operation =
        (controller.offPhase operation).map (OffPhase.afterDispatch · false) ∧
      next.locked = none) ∨
    ∃ decision, StateMachine.decide (controller.outcomeInput shared event sessionId) =
        .ok decision ∧ decision.noOp = false ∧
      next.offPhase operation = controller.offPhase operation ∧
      next.locked = some (.applying decision (controller.outcomeInput shared event sessionId)
        decision.actions (.offOperation operation)) := by
  have rolled : (controller.rollDaily shared.calendar shared.now).offPhase operation =
      controller.offPhase operation := by
    simp only [offPhase, (controller.rollDaily_quiet shared.calendar shared.now).offOperations]
  unfold decideAndApply
  simp only
  split
  · rename_i err raised
    obtain ⟨phase, free⟩ := @afterApply_own operation
      (controller.rollDaily shared.calendar shared.now) true
    exact .inl ⟨err, raised, phase.trans (by rw [rolled]), free⟩
  · rename_i decision decided
    split
    · rename_i nothing
      obtain ⟨phase, free⟩ := @afterApply_own operation
        (controller.rollDaily shared.calendar shared.now) false
      exact .inr (.inl ⟨decision, decided, nothing, phase.trans (by rw [rolled]), free⟩)
    · rename_i acts
      refine .inr (.inr ⟨decision, decided, by simpa using acts, ?_, rfl⟩)
      obtain ⟨frame, -, -⟩ := controller.applyPrelude_rolled shared decision
        ((controller.rollDaily shared.calendar shared.now).buildInput shared event sessionId)
      rw [offPhase, offPhase]
      exact congrArg (fun operations => (operations[operation]?).map OffOperation.phase)
        frame.offOperations

/-- One step of an application of the outcome. -/
theorem act_own {saved : Bool} {decision : Decision} {input : TransitionInput}
    {rest : List Action} :
    let next := (controller.act shared saved decision input (.offOperation operation) rest).1
    (rest = [] ∧ next.offPhase operation =
        (controller.offPhase operation).map (OffPhase.afterDispatch · false) ∧
      next.locked = none) ∨
    ∃ action remaining, rest = action :: remaining ∧
      ((controller.applyAction shared action saved).2 = none ∧
          next.offPhase operation = controller.offPhase operation ∧
          next.locked = some (.applying decision input remaining (.offOperation operation)) ∨
        (∃ message, (controller.applyAction shared action saved).2 =
            some (.storeWriteVerification message)) ∧
          next.offPhase operation =
            (controller.offPhase operation).map (OffPhase.afterDispatch · false) ∧
          next.locked = none ∨
        (∃ err, (controller.applyAction shared action saved).2 = some err ∧
            ∀ message, err ≠ .storeWriteVerification message) ∧
          next.offPhase operation =
            (controller.offPhase operation).map (OffPhase.afterDispatch · true) ∧
          next.locked = none) := by
  cases rest with
  | nil =>
    obtain ⟨phase, free⟩ := @afterApply_own operation controller.applyFinish false
    have finished : controller.applyFinish.offPhase operation = controller.offPhase operation := by
      unfold applyFinish
      split <;> rfl
    exact .inl ⟨rfl, phase.trans (by rw [finished]), free⟩
  | cons action remaining =>
    refine .inr ⟨action, remaining, rfl, ?_⟩
    obtain ⟨offOperations, -⟩ := applyAction_offOperations controller shared action saved
    simp only [act]
    generalize applied : controller.applyAction shared action saved = result at offOperations ⊢
    obtain ⟨⟨after, shared'⟩, raised⟩ := result
    have operations : after.offOperations = controller.offOperations := offOperations
    have same : after.offPhase operation = controller.offPhase operation := by
      rw [offPhase, operations, offPhase]
    cases raised with
    | none =>
      refine .inl ⟨rfl, ?_, rfl⟩
      rw [← same]
      cases action <;> rfl
    | some err =>
      cases err with
      | storeWriteVerification message =>
        obtain ⟨phase, free⟩ := @afterApply_own operation after.handlePersistFailure false
        obtain ⟨-, -, -, -, kept, -⟩ := after.handlePersistFailure_spec
        refine .inr (.inl ⟨⟨message, rfl⟩, phase.trans ?_, free⟩)
        rw [← same, offPhase, offPhase, kept]
      | _ =>
        obtain ⟨phase, free⟩ := @afterApply_own operation after true
        exact .inr (.inr ⟨⟨_, rfl, by simp⟩, phase.trans (by rw [same]), free⟩)

theorem rollDaily_setOffPhase (phase : OffPhase) :
    (controller.setOffPhase operation phase).rollDaily shared.calendar shared.now =
      (controller.rollDaily shared.calendar shared.now).setOffPhase operation phase := by
  unfold rollDaily
  by_cases today : controller.daily.dateLocal = shared.calendar.dayOf shared.now
  · rw [if_pos today, if_pos (show (controller.setOffPhase operation phase).daily.dateLocal = _
      from today)]
  · rw [if_neg today, if_neg (show (controller.setOffPhase operation phase).daily.dateLocal ≠ _
      from today)]
    rfl

theorem outcomeInput_setOffPhase (event : ControllerEvent) (phase : OffPhase) :
    (controller.setOffPhase operation phase).outcomeInput shared event sessionId =
      controller.outcomeInput shared event sessionId := by
  simp only [outcomeInput, rollDaily_setOffPhase, buildInput]
  rfl

theorem outcomeApplying_of_locked {decision : Decision} {input : TransitionInput}
    {rest : List Action}
    (locked : controller.locked = some (.applying decision input rest (.offOperation operation))) :
    controller.outcomeApplying operation = some (decision, input, rest) := by
  simp [outcomeApplying, locked]

theorem locked_of_outcomeApplying {decision : Decision} {input : TransitionInput}
    {rest : List Action}
    (applying : controller.outcomeApplying operation = some (decision, input, rest)) :
    controller.locked = some (.applying decision input rest (.offOperation operation)) := by
  unfold outcomeApplying at applying
  split at applying
  · rename_i locked
    split at applying
    · rename_i same
      obtain ⟨rfl, rfl, rfl⟩ : _ = decision ∧ _ = input ∧ _ = rest := by simpa using applying
      rw [locked, same]
    · cases applying
  · cases applying

/-- The write that an action makes, if it makes one, is built, accepted and read back. -/
def Stores (controller : ZoneController) (shared : SharedState) (action : Action) (saved : Bool) :
    Prop :=
  let blocker (reason : BlockerReason) : BlockerKey := (controller.safetyRecordId, reason)
  let written (reason : BlockerReason) (active : Bool) : Prop := ∃ store,
    persistSlotBlocker shared.store controller.safetyRecordId reason active saved = .ok store
  match action with
  | .persistState _ => ∃ store,
    (controller.rollDaily shared.calendar shared.now).persist shared.store saved = .ok store
  | .addBlocker reason =>
    blocker reason ∈ shared.slots.blockers ∧ blocker reason ∉ shared.slots.unpersistedBlockers ∨
      written reason true
  | .removeBlocker reason => blocker reason ∉ shared.slots.blockers ∨ written reason false
  | _ => True

theorem stores_iff {action : Action} {saved : Bool} :
    controller.Stores shared action saved ↔
      (controller.applyAction shared action saved).2 = none := by
  cases action with
  | persistState tag =>
    simp only [Stores, applyAction]
    split <;> simp_all
  | addBlocker reason =>
    simp only [Stores, applyAction, SharedState.addBlocker]
    split
    · rename_i held
      simp [held]
    · rename_i missing
      split <;> simp_all
  | removeBlocker reason =>
    simp only [Stores, applyAction, SharedState.removeBlocker]
    split
    · rename_i absent
      simp [absent]
    · rename_i held
      split <;> simp_all
  | _ => simp [Stores, applyAction]

/-- What is applied for the operation: whether it confirms OFF, and the actions ahead. -/
def outcomeLeft (controller : ZoneController) (operation : Nat) : Option (Bool × Nat) :=
  (controller.outcomeApplying operation).map fun (_, input, rest) =>
    (input.event.confirmsOff, rest.length)

/-- The task of the operation is not kept waiting by another holder of the lock. -/
def HasTurn (controller : ZoneController) (operation : Nat) : Prop :=
  controller.locked = none ∨ (controller.outcomeApplying operation).isSome = true

end ZoneController

/-! ## The steps of the task are its moves -/

namespace ZoneController

variable {operation : Nat} {controller next : ZoneController} {shared shared' : SharedState}
  {label : ControllerLabel} {sessionId : String} {delivery : Option Delivery} {kept : Bool}

/-- The task of the operation makes a move. -/
def OffTurn (operation : Nat) (kept : Bool) (controller : ZoneController)
    (delivery : Option Delivery) (next : ZoneController) : Prop :=
  ∃ phase phase', controller.offPhase operation = some phase ∧
    next.offPhase operation = some phase' ∧
    OffMove kept phase (controller.outcomeLeft operation) delivery phase'
      (next.outcomeLeft operation)

def OffFits (controller : ZoneController) (operation : Nat) : Prop :=
  OffCoherent (controller.offPhase operation) (controller.outcomeLeft operation)

theorem outcomeLeft_of_unlocked (unlocked : controller.locked = none) :
    controller.outcomeLeft operation = none := by
  rw [outcomeLeft, outcomeApplying_of_unlocked unlocked]
  rfl

theorem outcomeLeft_of_locked {decision : Decision} {input : TransitionInput}
    {rest : List Action}
    (locked : controller.locked = some (.applying decision input rest (.offOperation operation))) :
    controller.outcomeLeft operation = some (input.event.confirmsOff, rest.length) := by
  rw [outcomeLeft, outcomeApplying_of_locked locked]
  rfl

/-- The phase changes and the lock stays. -/
theorem setOffPhase_turn {phase phase' : OffPhase}
    (found : controller.offPhase operation = some phase)
    (move : OffMove kept phase (controller.outcomeLeft operation) delivery phase'
      (controller.outcomeLeft operation)) :
    OffTurn operation kept controller delivery (controller.setOffPhase operation phase') := by
  refine ⟨phase, phase', found, ?_, move⟩
  rw [offPhase_setOffPhase, if_pos rfl, found]
  rfl

theorem setOffPhase_self {phase : OffPhase} (found : controller.offPhase operation = some phase) :
    controller.setOffPhase operation phase = controller := by
  have same : (controller.offOperations.modify operation fun current =>
      { current with phase := phase }) = controller.offOperations := by
    apply List.ext_getElem?
    intro index
    rw [List.getElem?_modify]
    by_cases here : operation = index
    · subst here
      obtain ⟨current, there, rfl⟩ := Option.map_eq_some_iff.mp found
      simp [there]
    · simp [here]
  rw [setOffPhase, same]

theorem delivered_offDispatch {phase : OffPhase} {event : ControllerEvent}
    (found : controller.offPhase operation = some phase) (outcome : phase.outcome = some event) :
    controller.delivered shared operation (.offDispatch operation) sessionId =
      match StateMachine.decide (controller.outcomeInput shared event sessionId) with
      | .ok decision => if decision.noOp then some ⟨event.confirmsOff, .full⟩ else none
      | .error _ => none := by
  simp [delivered, found, outcome]

theorem decideAndApply_turn {phase : OffPhase} {event : ControllerEvent}
    (found : controller.offPhase operation = some phase) (outcome : phase.outcome = some event)
    (unlocked : controller.locked = none) :
    let next := (controller.setOffPhase operation phase.dispatched).decideAndApply shared event
      (.offOperation operation) sessionId
    ∃ kept, OffTurn operation kept controller
        (controller.delivered shared operation (.offDispatch operation) sessionId) next ∧
      next.HasTurn operation ∧
      ((phase = .recovering → ∃ decision, StateMachine.decide
        (controller.outcomeInput shared event sessionId) = .ok decision) → kept = true) := by
  intro next
  have phased : (controller.setOffPhase operation phase.dispatched).offPhase operation =
      some phase.dispatched := by
    rw [offPhase_setOffPhase, if_pos rfl, found]
    rfl
  have idle : controller.outcomeLeft operation = none := outcomeLeft_of_unlocked unlocked
  have turn : ∀ {kept phase' delivery applying},
      next.offPhase operation = some phase' → next.outcomeLeft operation = applying →
      controller.delivered shared operation (.offDispatch operation) sessionId = delivery →
      OffMove kept phase none delivery phase' applying →
      OffTurn operation kept controller
        (controller.delivered shared operation (.offDispatch operation) sessionId) next := by
    rintro kept phase' delivery applying after rfl rfl move
    exact ⟨phase, phase', found, after, idle ▸ move⟩
  have cases' := @decideAndApply_own operation
    (controller.setOffPhase operation phase.dispatched) shared sessionId event
  simp only [outcomeInput_setOffPhase, phased, Option.map_some] at cases'
  -- The report raises, is decided as a no-op, or is being applied.
  rcases cases' with ⟨err, raised, after, free⟩ | ⟨decision, decided, noOp, after, free⟩ |
    ⟨decision, decided, acts, after, held⟩
  · have silent : controller.delivered shared operation (.offDispatch operation) sessionId =
        none := by
      rw [delivered_offDispatch found outcome, raised]
    cases phase with
    -- A report that raises is followed by one more; after that the outcome is lost.
    | settling confirmedAt =>
      exact ⟨true, turn after (outcomeLeft_of_unlocked free) silent (.aborted rfl), .inl free,
        fun _ => rfl⟩
    | recovering =>
      refine ⟨false, turn after (outcomeLeft_of_unlocked free) silent .dropped, .inl free,
        fun decides => ?_⟩
      obtain ⟨decision, decided⟩ := decides rfl
      rw [raised] at decided
      cases decided
    | _ => cases outcome
  · have delivers : controller.delivered shared operation (.offDispatch operation) sessionId =
        some ⟨event.confirmsOff, .full⟩ := by
      rw [delivered_offDispatch found outcome, decided]
      exact if_pos noOp
    have done : phase.dispatched.afterDispatch false = .done event.confirmsOff := by
      cases phase with
      | settling confirmedAt =>
        obtain rfl := Option.some.inj outcome
        simp [OffPhase.dispatched, OffPhase.afterDispatch]
      | recovering =>
        obtain rfl := Option.some.inj outcome
        rfl
      | _ => cases outcome
    exact ⟨true, turn (after.trans (congrArg some done)) (outcomeLeft_of_unlocked free) delivers
      (.nothing outcome), .inl free, fun _ => rfl⟩
  · have silent : controller.delivered shared operation (.offDispatch operation) sessionId =
        none := by
      rw [delivered_offDispatch found outcome, decided]
      exact if_neg (by simp [acts])
    refine ⟨true, turn after (outcomeLeft_of_locked held) silent (.dispatched outcome),
      .inr (by rw [outcomeApplying_of_locked held]; rfl), fun _ => rfl⟩

theorem offStep_turn (fits : controller.OffFits operation)
    (own : label.isOffStep operation = true)
    (stepped : controller.offStep shared label sessionId = some next) :
    ∃ kept, OffTurn operation kept controller
        (controller.delivered shared operation label sessionId) next ∧
      (controller.HasTurn operation → next.HasTurn operation) ∧
      ((label = .offDispatch operation → controller.offPhase operation = some .recovering →
        ∃ decision, StateMachine.decide
          (controller.outcomeInput shared .offNotConfirmed sessionId) = .ok decision) →
        kept = true) := by
  -- Before it has settled, no outcome of the operation is being applied.
  have idle : ∀ {phase}, controller.offPhase operation = some phase →
      phase.isSettled = false → controller.outcomeLeft operation = none := by
    intro phase found unsettled
    unfold OffFits at fits
    rw [found] at fits
    cases phase <;> first | exact fits | cases unsettled
  unfold offStep at stepped
  split at stepped
  · -- The OFF service returned.
    rename_i current reading
    obtain rfl : current = operation := by simpa [ControllerLabel.isOffStep] using own
    split at stepped
    · rename_i left found
      obtain rfl := Option.some.inj stepped
      have read : ({ controller with assessment := reading } : ZoneController).offPhase current =
          some (.commanding left) := found
      have applying : ({ controller with assessment := reading } : ZoneController).outcomeLeft
          current = none := idle found rfl
      unfold offServiceReturned
      simp only
      split
      · exact ⟨true, setOffPhase_turn read (applying ▸ .returnedProven), id, fun _ => rfl⟩
      · exact ⟨true, setOffPhase_turn read (applying ▸ .returned), id, fun _ => rfl⟩
    · cases stepped
  · -- The wait for the proof ended.
    rename_i current
    obtain rfl : current = operation := by simpa [ControllerLabel.isOffStep] using own
    split at stepped
    · rename_i left found
      obtain rfl := Option.some.inj stepped
      have applying := idle found rfl
      unfold offProofEnded
      split
      · exact ⟨true, setOffPhase_turn found (applying ▸ .proven), id, fun _ => rfl⟩
      · cases left with
        | zero => exact ⟨true, setOffPhase_turn found (applying ▸ .exhausted), id, fun _ => rfl⟩
        | succ left => exact ⟨true, setOffPhase_turn found (applying ▸ .again), id, fun _ => rfl⟩
    · cases stepped
  · -- The operation is aborted.
    rename_i current
    obtain rfl : current = operation := by simpa [ControllerLabel.isOffStep] using own
    have aborts : ∀ {phase}, controller.offPhase current = some phase → phase.isSettled = false →
        OffTurn current true controller none (controller.setOffPhase current .recovering) :=
      fun found unsettled => setOffPhase_turn found (idle found unsettled ▸ .aborted unsettled)
    split at stepped
    · rename_i found
      obtain rfl := Option.some.inj stepped
      exact ⟨true, aborts found rfl, id, fun _ => rfl⟩
    · rename_i found
      obtain rfl := Option.some.inj stepped
      exact ⟨true, aborts found rfl, id, fun _ => rfl⟩
    · cases stepped
  · -- The outcome is dispatched.
    rename_i current
    obtain rfl : current = operation := by simpa [ControllerLabel.isOffStep] using own
    split at stepped
    · rename_i unlocked
      split at stepped
      · rename_i confirmedAt found
        obtain rfl := Option.some.inj stepped
        obtain ⟨kept, turn, free, decided⟩ := @decideAndApply_turn current controller shared
          sessionId (.settling confirmedAt) (outcomeEvent confirmedAt) found rfl unlocked
        exact ⟨kept, turn, fun _ => free, fun _ => decided (by simp)⟩
      · rename_i found
        obtain rfl := Option.some.inj stepped
        obtain ⟨kept, turn, free, decided⟩ := @decideAndApply_turn current controller shared
          sessionId .recovering .offNotConfirmed found rfl unlocked
        rw [show OffPhase.dispatched .recovering = .recovering from rfl,
          setOffPhase_self found] at turn free
        exact ⟨kept, turn, fun _ => free, fun decides => decided fun _ => decides rfl found⟩
      · cases stepped
    · cases stepped
  · cases stepped

theorem OffFits.begun {applying : Bool × Nat} (fits : controller.OffFits operation)
    (left : controller.outcomeLeft operation = some applying) :
    ∃ phase, controller.offPhase operation = some phase := by
  unfold OffFits at fits
  rw [left] at fits
  cases found : controller.offPhase operation with
  | some phase => exact ⟨phase, rfl⟩
  | none =>
    rw [found] at fits
    cases fits

theorem delivered_act {saved : Bool} {decision : Decision} {input : TransitionInput}
    {rest : List Action}
    (applying : controller.outcomeApplying operation = some (decision, input, rest)) :
    controller.delivered shared operation (.act saved) sessionId =
      match rest with
      | [] => some ⟨input.event.confirmsOff, .full⟩
      | action :: _ =>
        match (controller.applyAction shared action saved).2 with
        | none => none
        | some (.storeWriteVerification _) => some ⟨input.event.confirmsOff, .writeFailed⟩
        | some _ => some ⟨input.event.confirmsOff, .raised⟩ := by
  cases rest <;> simp only [delivered, applying]

theorem act_turn {saved : Bool} {decision : Decision} {input : TransitionInput}
    {rest : List Action} (fits : controller.OffFits operation)
    (applying : controller.outcomeApplying operation = some (decision, input, rest)) :
    let next := (controller.act shared saved decision input (.offOperation operation) rest).1
    ∃ kept, OffTurn operation kept controller
        (controller.delivered shared operation (.act saved) sessionId) next ∧
      next.HasTurn operation ∧
      ((∀ action remaining, rest = action :: remaining → input.event.confirmsOff = true →
        controller.Stores shared action saved) → kept = true) := by
  intro next
  have left : controller.outcomeLeft operation = some (input.event.confirmsOff, rest.length) :=
    outcomeLeft_of_locked (locked_of_outcomeApplying applying)
  obtain ⟨phase, found⟩ := fits.begun left
  have turn : ∀ {kept phase' delivery applying'},
      next.offPhase operation = some phase' → next.outcomeLeft operation = applying' →
      controller.delivered shared operation (.act saved) sessionId = delivery →
      OffMove kept phase (some (input.event.confirmsOff, rest.length)) delivery phase' applying' →
      OffTurn operation kept controller
        (controller.delivered shared operation (.act saved) sessionId) next := by
    rintro kept phase' delivery applying' after rfl rfl move
    exact ⟨phase, phase', found, after, left ▸ move⟩
  rcases @act_own operation controller shared saved decision input rest with
    ⟨rfl, after, free⟩ | ⟨action, remaining, rfl, acted⟩
  · rw [found] at after
    exact ⟨true, turn after (outcomeLeft_of_unlocked free) (delivered_act applying) .applied,
      .inl free, fun _ => rfl⟩
  · rw [found] at acted
    have stops : ∀ {raised} ended, (controller.applyAction shared action saved).2 ≠ none →
        next.offPhase operation = some (phase.afterDispatch raised) → next.locked = none →
        controller.delivered shared operation (.act saved) sessionId =
          some ⟨input.event.confirmsOff, ended⟩ →
        ∃ kept, OffTurn operation kept controller
            (controller.delivered shared operation (.act saved) sessionId) next ∧
          next.HasTurn operation ∧
          ((∀ action' remaining', action :: remaining = action' :: remaining' →
            input.event.confirmsOff = true → controller.Stores shared action' saved) →
            kept = true) := by
      intro raised ended raises after free ended'
      refine ⟨_, turn after (outcomeLeft_of_unlocked free) ended' .failed, .inl free,
        fun stores => ?_⟩
      cases confirms : input.event.confirmsOff with
      | false => rfl
      | true => exact absurd (stores_iff.mp (stores _ _ rfl confirms)) raises
    rcases acted with ⟨fine, after, held⟩ | ⟨⟨message, failed⟩, after, free⟩ |
      ⟨⟨err, raised, other⟩, after, free⟩
    · have silent : controller.delivered shared operation (.act saved) sessionId = none := by
        rw [delivered_act applying]
        simp only [fine]
      exact ⟨true, turn after (outcomeLeft_of_locked held) silent .acted,
        .inr (by rw [outcomeApplying_of_locked held]; rfl), fun _ => rfl⟩
    · refine stops .writeFailed (by simp [failed]) after free ((delivered_act applying).trans ?_)
      simp [failed]
    · refine stops .raised (by simp [raised]) after free ((delivered_act applying).trans ?_)
      cases err <;> simp_all

/-- A cancellation is a move of the task, or the end of its recovery. -/
theorem cancelOff_turn {lost : Bool} (fits : controller.OffFits operation)
    (cancelled : controller.cancelOff operation = some (next, delivery, lost)) :
    (lost = true ∧ controller.offPhase operation = some .recovering) ∨
    lost = false ∧ next.offPhase operation = some .recovering ∧
      ∃ kept phase, controller.offPhase operation = some phase ∧
        OffTurn operation kept controller delivery next ∧
        (phase.isUninterruptible = false → kept = true) := by
  have aborts : ∀ {phase}, controller.offPhase operation = some phase → phase.isSettled = false →
      OffTurn operation true controller none (controller.setOffPhase operation .recovering) := by
    intro phase found unsettled
    have idle : controller.outcomeLeft operation = none := by
      unfold OffFits at fits
      rw [found] at fits
      cases phase <;> first | exact fits | cases unsettled
    exact setOffPhase_turn found (idle ▸ .aborted unsettled)
  have recovers : ∀ {current : ZoneController} {phase}, current.offPhase operation = some phase →
      (current.setOffPhase operation .recovering).offPhase operation = some .recovering := by
    intro current phase found
    rw [offPhase_setOffPhase, if_pos rfl, found]
    rfl
  unfold cancelOff at cancelled
  split at cancelled <;> simp only [Option.some.injEq, Prod.mk.injEq, reduceCtorEq] at cancelled
  · rename_i found
    obtain ⟨rfl, rfl, rfl⟩ := cancelled
    exact .inr ⟨rfl, recovers found, true, _, found, aborts found rfl, fun _ => rfl⟩
  · rename_i found
    obtain ⟨rfl, rfl, rfl⟩ := cancelled
    exact .inr ⟨rfl, recovers found, true, _, found, aborts found rfl, fun _ => rfl⟩
  · rename_i found
    obtain ⟨rfl, rfl, rfl⟩ := cancelled
    exact .inr ⟨rfl, recovers found, true, _, found, aborts found rfl, fun _ => rfl⟩
  · rename_i confirmedAt found
    obtain ⟨rfl, rfl, rfl⟩ := cancelled
    unfold OffFits at fits
    rw [found] at fits
    obtain ⟨left, applying⟩ := fits
    have held : (controller.outcomeApplying operation).isSome = true := by
      obtain ⟨_, held, -⟩ := Option.map_eq_some_iff.mp applying
      simp [held]
    have free : (controller.releaseOutcome operation).locked = none := if_pos held
    have released : (controller.releaseOutcome operation).offPhase operation =
        some (.dispatching confirmedAt) := found
    refine .inr ⟨rfl, recovers released, !confirmedAt.isSome, .dispatching confirmedAt, found,
      ⟨.dispatching confirmedAt, .recovering, found, recovers released, ?_⟩,
      fun interruptible => ?_⟩
    · rw [applying, show ((controller.releaseOutcome operation).setOffPhase operation
        .recovering).outcomeLeft operation = none from outcomeLeft_of_unlocked free]
      exact .cancelled
    · cases confirmedAt with
      | some at' => cases interruptible
      | none => rfl
  · rename_i found
    obtain ⟨-, -, rfl⟩ := cancelled
    exact .inl ⟨rfl, found⟩

end ZoneController

end MoistureLoop
