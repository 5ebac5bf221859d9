import MoistureLoop.Controller.Shared

/-! # A committed termination reaches OFF

A decision that commits a termination persists before it requests OFF, and every later
trigger is a no-op.  Whether OFF is still requested then depends on how the write can
fail: a failed verification is handled, every other exception escapes. -/

open MoistureLoop.Action
open MoistureLoop.StateMachine (isExecuteOff)

namespace MoistureLoop

namespace ZoneController

/-- A WATERING session with a committed reason has its OFF requested, or an OFF operation
of its pulse, or is being applied with the OFF request still ahead. -/
def TerminationReachesOff (controller : ZoneController) : Prop :=
  controller.state = .watering → ∀ session, controller.session = some session →
    session.pendingTerminationReason.isSome = true →
    controller.offRequested = true ∨
    (∃ operation, controller.currentOffOperation = some operation ∧
      operation.begunIn = some session.pulse) ∨
    controller.ahead.any isExecuteOff = true

/-- The inductive form: nothing is committed before ON is requested, and afterwards the
operation the controller refers to belongs to the pulse. -/
structure ReachesOff (controller : ZoneController) : Prop where
  starting : turnOn ∈ controller.ahead → ∀ session, controller.session = some session →
    session.pendingTerminationReason = none
  begun : turnOn ∉ controller.ahead → controller.state = .watering →
    ∀ session, controller.session = some session →
    ∀ origin, controller.currentOrigin = some origin → origin.2 = some session.pulse
  committed : controller.state = .watering → ∀ session, controller.session = some session →
    session.pendingTerminationReason.isSome = true →
    controller.offRequested = true ∨ controller.currentOrigin.isSome = true ∨
      controller.ahead.any isExecuteOff = true

variable {controller : ZoneController} {shared : SharedState}

theorem ReachesOff.terminationReachesOff (reaches : controller.ReachesOff) :
    controller.TerminationReachesOff := by
  intro watering session held pending
  rcases reaches.committed watering session held pending with requested | begun | ahead
  · exact .inl requested
  · refine .inr (.inl ?_)
    have notStarting : turnOn ∉ controller.ahead := fun starting => by
      simp [reaches.starting starting session held] at pending
    obtain ⟨origin, current⟩ := Option.isSome_iff_exists.mp begun
    have pulse := reaches.begun notStarting watering session held origin current
    rw [currentOrigin_eq] at current
    obtain ⟨operation, found, rfl⟩ := Option.map_eq_some_iff.mp current
    exact ⟨operation, found, pulse⟩
  · exact .inr (.inr ahead)

/-! ## Pieces of a step -/

theorem ReachesOff.of_sameCore {next : ZoneController} (reaches : controller.ReachesOff)
    (same : SameCore controller next) (ahead : next.ahead = controller.ahead) :
    next.ReachesOff := by
  refine ⟨?_, ?_, ?_⟩
  · rw [ahead, same.session]
    exact reaches.starting
  · rw [ahead, same.state, same.session, same.currentOrigin]
    exact reaches.begun
  · rw [ahead, same.state, same.session, same.offRequested, same.currentOrigin]
    exact reaches.committed

/-- Outside WATERING, with nothing ahead, there is nothing to show. -/
theorem ReachesOff.of_not_watering (away : controller.state ≠ .watering)
    (ahead : controller.ahead = []) : controller.ReachesOff :=
  ⟨by simp [ahead], fun _ watering => absurd watering away, fun watering => absurd watering away⟩

theorem ReachesOff.afterApply (reaches : controller.ReachesOff) (ahead : controller.ahead = [])
    (applier : Applier) (raised : Bool) : (controller.afterApply applier raised).ReachesOff := by
  obtain ⟨same, nothing⟩ := controller.afterApply_sameCore applier raised
  exact reaches.of_sameCore same (nothing.trans ahead.symm)

theorem ReachesOff.decideAndApply (reaches : controller.ReachesOff)
    (unlocked : controller.locked = none) (event : ControllerEvent) (applier : Applier)
    (sessionId : String) :
    (controller.decideAndApply shared event applier sessionId).ReachesOff := by
  have nothing := ahead_of_unlocked unlocked
  have rolled := controller.rollDaily_sameDecided shared.calendar shared.now
  rcases controller.decideAndApply_cases shared event applier sessionId with
    ⟨raised, applied⟩ | ⟨decision, effect, -, applied⟩
  · rw [applied]
    have ahead := ahead_congr rolled.locked
    exact (reaches.of_sameCore rolled.sameCore ahead).afterApply (ahead.trans nothing) _ _
  · rw [applied]
    obtain ⟨frame, session', state'⟩ := controller.applyPrelude_rolled shared decision
      ((controller.rollDaily shared.calendar shared.now).buildInput shared event sessionId)
    generalize (controller.rollDaily shared.calendar shared.now).applyPrelude shared decision _
      = next at frame session' state' ⊢
    have inputState : ((controller.rollDaily shared.calendar shared.now).buildInput shared event
      sessionId).state = controller.state := rolled.state
    have inputSession : ((controller.rollDaily shared.calendar shared.now).buildInput shared event
      sessionId).session = controller.session := rolled.session
    have origin : next.currentOrigin = controller.currentOrigin := by
      simp only [currentOrigin, frame.offOperation, frame.offOperations]
    have before := reaches.begun (by simp [nothing])
    have owed := reaches.committed
    simp only [nothing, List.any_nil, Bool.false_eq_true, or_false] at owed
    cases effect with
    -- A new pulse is uncommitted and its TurnOn is ahead.
    | starts session decided kept _ uncommitted _ _ on =>
      have adopted : next.session = some session := by simp [session', decided, kept]
      refine ⟨?_, fun notStarting => absurd on notStarting, ?_⟩
      · rintro - held same
        obtain rfl := Option.some.inj (adopted.symm.trans same)
        exact uncommitted
      · rintro - held same pending
        obtain rfl := Option.some.inj (adopted.symm.trans same)
        simp [uncommitted] at pending
    | clears cleared _ _ noOn =>
      have adopted : next.session = none := by simp [session', cleared]
      exact ⟨fun starting => absurd starting noOn, by simp [adopted], by simp [adopted]⟩
    -- A reason that is committed now has its ExecuteOff ahead.
    | updates prior after input decided kept pulse _ noOn _ committed =>
      have adopted : next.session = some after := by simp [session', decided, kept]
      rw [inputSession] at input
      rw [inputState] at committed
      refine ⟨fun starting => absurd starting noOn, ?_, ?_⟩
      · rintro - watering held same found current
        obtain rfl := Option.some.inj (adopted.symm.trans same)
        have was := (committed (state' ▸ watering)).1
        rw [pulse]
        exact before was prior input found (origin ▸ current)
      · rintro watering held same pending
        obtain rfl := Option.some.inj (adopted.symm.trans same)
        obtain ⟨was, samePending | ⟨requested, -⟩⟩ := committed (state' ▸ watering)
        · rcases owed was prior input (samePending ▸ pending) with requested | current
          · exact .inl (frame.offRequested.trans requested)
          · exact .inr (.inl ((congrArg Option.isSome origin).trans current))
        · exact .inr (.inr requested)
    -- What was owed before still is.
    | keeps decided kept noOn _ stays =>
      have adopted : next.session = controller.session := by simp [session', decided, kept]
      rw [inputState] at stays
      refine ⟨fun starting => absurd starting noOn, ?_, ?_⟩
      · rintro - watering held same found current
        exact before (stays (state' ▸ watering)) held (adopted ▸ same) found (origin ▸ current)
      · rintro watering held same pending
        rcases owed (stays (state' ▸ watering)) held (adopted ▸ same) pending with
          requested | current
        · exact .inl (frame.offRequested.trans requested)
        · exact .inr (.inl ((congrArg Option.isSome origin).trans current))

theorem ReachesOff.beginOffOperation (reaches : controller.ReachesOff)
    (requestedFor : Option PulseId) :
    (controller.beginOffOperation requestedFor).ReachesOff ∧
      (controller.beginOffOperation requestedFor).currentOrigin.isSome = true := by
  rcases controller.beginOffOperation_cases requestedFor with ⟨joined, current⟩ | begun
  · rw [joined]
    exact ⟨reaches, current⟩
  · rw [begun, newOffOperation_currentOrigin]
    refine ⟨⟨reaches.starting, ?_, fun _ _ _ _ => .inr (.inl ?_)⟩, rfl⟩
    · rintro - - session held origin current
      rw [newOffOperation_currentOrigin] at current
      obtain rfl := Option.some.inj current
      have same : controller.session = some session := held
      simp [same]
    · rw [newOffOperation_currentOrigin]
      rfl

theorem ReachesOff.ensureOffOperation (reaches : controller.ReachesOff)
    (requestedFor : Option PulseId) (compensating : Bool) :
    (controller.ensureOffOperation requestedFor compensating).ReachesOff := by
  -- Without the request, every commitment still has to be answered by an operation.
  rcases ({ controller with offRequested := false } : ZoneController).beginOffOperation_cases
    requestedFor with ⟨joined, current⟩ | begun
  · refine ⟨?_, ?_, ?_⟩ <;> simp only [ZoneController.ensureOffOperation, joined]
    · exact reaches.starting
    · exact reaches.begun
    · exact fun _ _ _ _ => .inr (.inl current)
  · refine ⟨?_, ?_, ?_⟩ <;> simp only [ZoneController.ensureOffOperation, begun]
    · exact reaches.starting
    · rintro - - session held origin current
      have same : controller.session = some session := held
      rw [show origin = (requestedFor, controller.session.map SessionContext.pulse) from
        (Option.some.inj (current.symm.trans
          (newOffOperation_currentOrigin { controller with offRequested := false }
            requestedFor)))]
      simp [same]
    · exact fun _ _ _ _ => .inr (.inl (congrArg Option.isSome
        (newOffOperation_currentOrigin { controller with offRequested := false } requestedFor)))

/-- A compensation that finds no start in progress reaches OFF: what it commits is answered
by the operation it joins. -/
theorem ReachesOff.compensate (reaches : controller.ReachesOff)
    (notStarting : turnOn ∉ controller.ahead) (configurationChanged serviceFailed : Bool) :
    (controller.compensate shared configurationChanged serviceFailed).ReachesOff := by
  have spec := controller.commitOnCompensationNow_spec shared configurationChanged serviceFailed
  unfold ZoneController.compensate
  generalize controller.commitOnCompensationNow shared configurationChanged serviceFailed
    = result at spec ⊢
  obtain ⟨committed, raised⟩ := result
  obtain ⟨frame, absent, present⟩ := spec
  simp only at frame absent present ⊢
  have ahead : committed.ahead = controller.ahead := ahead_congr frame.locked
  have origin : committed.currentOrigin = controller.currentOrigin := by
    simp only [currentOrigin, frame.offOperation, frame.offOperations]
  have begun : committed.state = .watering → ∀ session, committed.session = some session →
      ∀ found, committed.currentOrigin = some found → found.2 = some session.pulse := by
    intro watering session held found current
    cases prior : controller.session with
    | none => simp [(absent prior).1] at held
    | some before =>
      obtain ⟨after, same, pulse, -, stays⟩ := present before prior
      obtain rfl := Option.some.inj (same.symm.trans held)
      rw [pulse]
      exact reaches.begun notStarting (stays watering).1 before prior found (origin ▸ current)
  cases raised with
  | true =>
    have kept : committed.ReachesOff := by
      refine ⟨fun starting => absurd (ahead ▸ starting) notStarting, fun _ => begun, ?_⟩
      intro watering session held pending
      cases prior : controller.session with
      | none => simp [(absent prior).1] at held
      | some before =>
        obtain ⟨after, same, -, -, stays⟩ := present before prior
        obtain rfl := Option.some.inj (same.symm.trans held)
        obtain ⟨was, samePending | impossible⟩ := stays watering
        · rw [frame.offRequested, ahead, origin]
          exact reaches.committed was before prior (samePending ▸ pending)
        · cases impossible
    exact kept.of_sameCore (by constructor <;> rfl) rfl
  | false =>
    simp only [Bool.false_eq_true, if_false]
    -- The OFF request itself is not consulted: the joined operation answers.
    have requested : ({ committed with offRequested := true } : ZoneController).ReachesOff :=
      ⟨fun starting => absurd (ahead ▸ starting) notStarting, fun _ => begun,
        fun _ _ _ _ => .inl rfl⟩
    exact requested.ensureOffOperation _ true

/-! ## Acting -/

/-- Everything the payload of the controller's write checks about the live state: the two
fault fields differ where both are sensor or configuration faults, and the daily counter
is no less than the contributions already recorded for that day. -/
def PayloadBuilds (controller : ZoneController) (shared : SharedState) : Prop :=
  (∀ fault, fault.isZoneFault = true → controller.activeFault = some fault →
    controller.secondaryFault ≠ some fault) ∧
  ∀ history, shared.store.zoneHistories.get? controller.zoneHistoryId = some history →
    DailyStorable history.daily
      (some (controller.rollDaily shared.calendar shared.now).daily)

theorem persistSlotBlocker_error {store : StoreData} {safetyRecordId : String}
    {reason : BlockerReason} {active saved : Bool} {err : PyError}
    (raised : persistSlotBlocker store safetyRecordId reason active saved = .error err) :
    ∃ message, err = .storeWriteVerification message := by
  unfold persistSlotBlocker at raised
  split at raised
  · exact ⟨_, (Except.error.inj raised).symm⟩
  · rename_i record found
    rcases setRecordBlocker_total reason active found with ⟨written, -⟩ | ⟨data, written, -⟩
    · simp [written] at raised
    · simp only [written, saveAndVerify] at raised
      split at raised
      · cases raised
      · exact ⟨_, (Except.error.inj raised).symm⟩

/-- When the payloads can be built, an action can only fail verification. -/
theorem applyAction_error {action : Action} {saved : Bool} {err : PyError}
    (known : controller.safetyRecordId ∈ shared.store.safetyRecords.keys)
    (builds : ∀ tag, action = persistState tag → controller.PayloadBuilds shared)
    (raised : (controller.applyAction shared action saved).2 = some err) :
    ∃ message, err = .storeWriteVerification message := by
  cases action with
  | persistState tag =>
    obtain ⟨faults, daily⟩ := builds tag rfl
    have same := controller.rollDaily_sameDecided shared.calendar shared.now
    simp only [applyAction] at raised
    split at raised
    · rename_i failure persisted
      obtain rfl := Option.some.inj raised
      unfold persist persistPayload at persisted
      rw [same.safetyRecordId, same.zoneHistoryId] at persisted
      obtain ⟨record, found⟩ := Option.isSome_iff_exists.mp (Dict.isSome_get?_iff.mpr known)
      simp only [found] at persisted
      split at persisted
      · rename_i payload
        obtain rfl := Except.error.inj persisted
        refine updateControllerRuntime_error payload ?_ fun history stored => daily history stored
        intro fault zone active
        simpa [update, same.secondaryFault] using
          faults fault zone (by simpa [update, same.activeFault] using active)
      · rename_i data _
        simp only [saveAndVerify] at persisted
        split at persisted
        · cases persisted
        · exact ⟨_, (Except.error.inj persisted).symm⟩
    · cases raised
  | addBlocker reason =>
    simp only [applyAction, SharedState.addBlocker] at raised
    split at raised
    · cases raised
    · split at raised
      · rename_i persisted
        obtain rfl := Option.some.inj raised
        exact persistSlotBlocker_error persisted
      · cases raised
  | removeBlocker reason =>
    simp only [applyAction, SharedState.removeBlocker] at raised
    split at raised
    · cases raised
    · split at raised
      · rename_i persisted
        obtain rfl := Option.some.inj raised
        exact persistSlotBlocker_error persisted
      · cases raised
  | _ => simp [applyAction] at raised

theorem ReachesOff.handlePersistFailure {applier : Applier} (raised : Bool) :
    (controller.handlePersistFailure.afterApply applier raised).ReachesOff := by
  obtain ⟨same, nothing⟩ := controller.handlePersistFailure.afterApply_sameCore applier raised
  refine .of_not_watering ?_ nothing
  rw [same.state, controller.handlePersistFailure_spec.1]
  decide

/-- An action that requests neither ON nor OFF leaves the rest to owe what was owed. -/
theorem ReachesOff.advance {next : ZoneController} {action : Action}
    (reaches : controller.ReachesOff) (same : SameCore controller next) (on : action ≠ turnOn)
    (off : isExecuteOff action = false) (ahead : controller.ahead = action :: next.ahead) :
    next.ReachesOff := by
  refine ⟨?_, ?_, ?_⟩
  · rw [same.session]
    exact fun starting => reaches.starting (ahead ▸ List.mem_cons_of_mem _ starting)
  · rw [same.state, same.session, same.currentOrigin]
    exact fun notStarting => reaches.begun (ahead ▸ fun starting =>
      notStarting ((List.mem_cons.mp starting).resolve_left (Ne.symm on)))
  · rw [same.state, same.session, same.offRequested, same.currentOrigin]
    intro watering session held pending
    have owed := reaches.committed watering session held pending
    rwa [ahead, List.any_cons, off, Bool.false_or] at owed

/-- An application that ends before any request leaves what was owed before. -/
theorem ReachesOff.abandon {next : ZoneController} (reaches : controller.ReachesOff)
    (same : SameCore controller next) (nothing : next.ahead = [])
    (on : turnOn ∉ controller.ahead) (off : controller.ahead.any isExecuteOff = false) :
    next.ReachesOff := by
  refine ⟨by simp [nothing], fun _ => ?_, ?_⟩
  · rw [same.state, same.session, same.currentOrigin]
    exact reaches.begun on
  · rw [same.state, same.session, same.offRequested, same.currentOrigin, nothing]
    intro watering session held pending
    simpa [off] using reaches.committed watering session held pending

def requestsFlow (actions : List Action) : Prop :=
  turnOn ∈ actions ∨ actions.any isExecuteOff = true

/-- The actions of an application, when every payload whose write comes before a request
can be built. -/
theorem ReachesOff.act (reaches : controller.ReachesOff) {saved : Bool} {decision : Decision}
    {input : TransitionInput} {rest : List Action} {applier : Applier}
    (locked : controller.locked = some (.applying decision input rest applier))
    (known : controller.safetyRecordId ∈ shared.store.safetyRecords.keys)
    (builds : ∀ tag tail, rest = persistState tag :: tail → requestsFlow tail →
      controller.PayloadBuilds shared) :
    (controller.act shared saved decision input applier rest).1.ReachesOff := by
  have ahead : controller.ahead = rest := by simp [ZoneController.ahead, locked]
  cases rest with
  | nil =>
    have finished := reaches.of_sameCore controller.applyFinish_sameCore
      (by unfold applyFinish; split <;> rfl)
    have nothing : controller.applyFinish.ahead = [] := by
      rw [← ahead]
      unfold applyFinish
      split <;> rfl
    exact finished.afterApply nothing applier false
  | cons action rest =>
    -- With payloads that build, an action fails by its write, or nothing else is ahead.
    have failing : ∀ err, (controller.applyAction shared action saved).2 = some err →
        (∃ message, err = .storeWriteVerification message) ∨
        ∃ tag, action = persistState tag ∧ ¬ requestsFlow rest := by
      intro err raised
      by_cases requests : requestsFlow rest
      · exact .inl (applyAction_error known
          (fun tag same => builds tag rest (by rw [same]) requests) raised)
      · cases action with
        | persistState tag => exact .inr ⟨tag, rfl, requests⟩
        | _ => exact .inl (applyAction_error known (by simp) raised)
    have kept : action ≠ turnOn → isExecuteOff action = false →
        SameCore controller (controller.applyAction shared action saved).1.1 :=
      fun on off => (controller.applyAction_quiet shared action saved on off).sameCore
    simp only [ZoneController.act]
    rcases applied : controller.applyAction shared action saved with ⟨⟨acted, shared'⟩, raised⟩
    simp only [applied] at failing kept
    cases raised with
    -- A failed write requests OFF; what escapes otherwise requested nothing.
    | some err =>
      rcases failing err rfl with ⟨message, rfl⟩ | ⟨tag, rfl, quiet⟩
      · exact ReachesOff.handlePersistFailure false
      · have same := kept (by simp) rfl
        obtain ⟨on, off⟩ : turnOn ∉ rest ∧ rest.any isExecuteOff = false := by
          simpa [requestsFlow] using quiet
        have escaped : (acted.afterApply applier true).ReachesOff := by
          obtain ⟨core, nothing⟩ := acted.afterApply_sameCore applier true
          exact reaches.abandon (same.trans core) nothing (by simp [ahead, on])
            (by simp [ahead, isExecuteOff, off])
        cases err with
        | storeWriteVerification _ => exact ReachesOff.handlePersistFailure false
        | _ => exact escaped
    | none =>
      simp only
      -- The action is TurnOn, ExecuteOff, or neither.
      by_cases on : action = turnOn
      · subst on
        obtain ⟨rfl, -⟩ : acted = controller.turnOnRequested ∧ shared' = shared := by
          simpa [applyAction, eq_comm] using applied
        have uncommitted := reaches.starting (by simp [ahead])
        refine ⟨fun _ => uncommitted, ?_, fun _ session held pending => ?_⟩
        · simp [noteRequest, currentOrigin, turnOnRequested]
        · simp [uncommitted session held] at pending
      · cases off : isExecuteOff action with
        | true =>
          cases action with
          | executeOff defensive =>
            obtain ⟨rfl, -⟩ : acted = { controller with offRequested := true } ∧
                shared' = shared := by
              simpa [applyAction, eq_comm] using applied
            refine ⟨fun starting => reaches.starting ?_, fun notStarting => reaches.begun ?_,
              fun _ _ _ _ => .inl rfl⟩
            · exact ahead ▸ List.mem_cons_of_mem _ starting
            · exact ahead ▸ fun starting => notStarting ((List.mem_cons.mp starting).resolve_left
                (by simp))
          | _ => cases off
        | false =>
          have same := kept on off
          have noted : acted.noteRequest action input = acted := by
            cases action <;> first | rfl | cases off
          rw [noted]
          exact reaches.advance (same.trans (by constructor <;> rfl)) on off ahead

/-! ## Steps -/

theorem ReachesOff.recordPossibleCommand (reaches : controller.ReachesOff) (marker : InFlightOn) :
    (controller.recordPossibleCommand marker).ReachesOff := by
  have recorded : ∀ session, (controller.recordPossibleCommand marker).session = some session →
      ∃ before, controller.session = some before ∧ session.pulse = before.pulse ∧
        session.pendingTerminationReason = before.pendingTerminationReason := by
    intro session held
    obtain ⟨before, same, rfl⟩ := Option.map_eq_some_iff.mp held
    refine ⟨before, same, ?_⟩
    split <;> exact ⟨rfl, rfl⟩
  refine ⟨fun starting session held => ?_, fun notStarting watering session held origin current => ?_,
    fun watering session held pending => ?_⟩
  · obtain ⟨before, same, -, reason⟩ := recorded session held
    exact reason.trans (reaches.starting starting before same)
  · obtain ⟨before, same, pulse, -⟩ := recorded session held
    rw [pulse]
    exact reaches.begun notStarting watering before same origin current
  · obtain ⟨before, same, -, reason⟩ := recorded session held
    exact reaches.committed watering before same (reason ▸ pending)

/-- The pieces of a step reach OFF. -/
theorem closed_reachesOff : ClosedCore ReachesOff fun _ => True where
  sameCore := ReachesOff.of_sameCore
  decided event applier sessionId reaches unlocked _ :=
    reaches.decideAndApply unlocked event applier sessionId
  compensated _ configurationChanged serviceFailed reaches notStarting :=
    reaches.compensate notStarting configurationChanged serviceFailed
  ensured requestedFor compensating reaches := reaches.ensureOffOperation requestedFor compensating
  begun requestedFor reaches := (reaches.beginOffOperation requestedFor).1
  recorded marker reaches := reaches.recordPossibleCommand marker
  failed {controller} _ unlocked := by
    obtain ⟨fault, -, -, -, -, locked, -⟩ := controller.handlePersistFailure_spec
    exact .of_not_watering (by rw [fault]; decide) (ahead_of_unlocked (locked.trans unlocked))

/-- A write that comes before a request of ON or OFF has a payload that can be built. -/
def WriteBuilds (controller : ZoneController) (shared : SharedState) (label : ControllerLabel) :
    Prop :=
  ∀ saved tag rest, label = .act saved → controller.ahead = persistState tag :: rest →
    requestsFlow rest → controller.PayloadBuilds shared

theorem ReachesOff.step {next : ZoneController} {shared' : SharedState} {label : ControllerLabel}
    {sessionId : String} (reaches : controller.ReachesOff)
    (known : controller.safetyRecordId ∈ shared.store.safetyRecords.keys)
    (builds : controller.WriteBuilds shared label) (returns : controller.NoLateReturn shared label)
    (stepped : controller.step shared label sessionId = some (next, shared')) :
    next.ReachesOff := by
  refine closed_reachesOff.step trivial reaches ?_ (.inl returns) stepped
  rintro saved decision input rest applier rfl locked
  refine reaches.act locked known fun tag tail same requests => ?_
  exact builds saved tag tail rfl (by simp [ahead, locked, same]) requests

end ZoneController

/-! ## Runs of an entry -/

/-- A controller as it is created from stored data: a committed reason is not stored with
a WATERING session. -/
structure ZoneController.Created (controller : ZoneController) : Prop where
  unlocked : controller.locked = none
  offOperation : controller.offOperation = none
  uncommitted : controller.state = .watering → ∀ session, controller.session = some session →
    session.pendingTerminationReason = none

theorem ZoneController.Created.reachesOff {controller : ZoneController}
    (created : controller.Created) : controller.ReachesOff := by
  have nothing := ahead_of_unlocked created.unlocked
  refine ⟨by simp [nothing], fun _ _ _ _ origin current => ?_, fun watering session held pending => ?_⟩
  · simp [currentOrigin, created.offOperation] at current
  · simp [created.uncommitted watering session held] at pending

namespace Entry

variable {κ : Type} [DecidableEq κ] {entry next start finish : Entry κ} {label : EntryLabel κ}

/-- Every step that writes before requesting ON or OFF has a payload that can be built, and
no ON command is lost in the start of a next pulse. -/
def PayloadsBuild (entry : Entry κ) (label : EntryLabel κ) (_ : Entry κ) : Prop :=
  ∀ key label' sessionId, label = .controller key label' sessionId →
    (entry.controllers key).WriteBuilds entry.shared label' ∧
      (entry.controllers key).NoLateReturn entry.shared label'

/-- The invariant of such runs. -/
structure ReachesOff (entry : Entry κ) : Prop where
  records : entry.RecordsKnown
  controllers : ∀ key, (entry.controllers key).ReachesOff

theorem ReachesOff.step (reaches : entry.ReachesOff) (stepped : entry.step label = some next)
    (guarded : entry.PayloadsBuild label next) : next.ReachesOff := by
  refine ⟨reaches.records.step stepped, fun key => ?_⟩
  rcases step_cases stepped with
    ⟨acting, label', sessionId, controller, shared, rfl, moved, rfl⟩ | moved
  · obtain ⟨builds, returns⟩ := guarded acting label' sessionId rfl
    by_cases same : key = acting
    · subst same
      simpa using (reaches.controllers key).step (reaches.records key) builds returns moved
    · simpa [Function.update_of_ne same] using reaches.controllers key
  · rw [moved.controllers]
    exact reaches.controllers key

/-- In a run whose payloads can all be built, a committed termination reaches OFF. -/
theorem terminationReachesOff_of_run (reached : system.Run PayloadsBuild start finish)
    (known : start.RecordsKnown) (created : ∀ key, (start.controllers key).Created) (key : κ) :
    (finish.controllers key).TerminationReachesOff := by
  have invariant : finish.ReachesOff :=
    reached.preserves ⟨known, fun key => (created key).reachesOff⟩
      fun _ _ _ reaches stepped guarded => reaches.step stepped guarded
  exact (invariant.controllers key).terminationReachesOff

/-- A check that implies that the step of the sample zone can build its payload, and that no
service call returns late. -/
def buildsCheck (entry : Entry Unit) : EntryLabel Unit → Bool
  | .controller _ (.act _) _ =>
    let controller := entry.controllers ()
    let counter := (controller.rollDaily entry.shared.calendar entry.shared.now).daily
    let recorded :=
      (entry.shared.store.zoneHistories.get? controller.zoneHistoryId).bind (·.daily)
    controller.secondaryFault.isNone && decide (0 ≤ counter.runtimeS) &&
      recorded.all fun day => decide (knownRuntime day.contributions ≤ counter.runtimeS)
  | .controller _ (.serviceReturned _ _) _ => decide (turnOn ∉ (entry.controllers ()).ahead)
  | _ => true

theorem payloadsBuild_of_check {entry next : Entry Unit} {label : EntryLabel Unit}
    (permitted : entry.buildsCheck label = true) : entry.PayloadsBuild label next := by
  rintro ⟨⟩ label' sessionId rfl
  constructor
  · rintro saved tag rest rfl - -
    simp only [buildsCheck, Bool.and_eq_true, Option.isNone_iff_eq_none, decide_eq_true_eq]
      at permitted
    obtain ⟨⟨single, nonnegative⟩, stored⟩ := permitted
    refine ⟨by simp [single], fun history found counter same => ?_⟩
    obtain rfl := Option.some.inj same
    refine ⟨nonnegative, fun day recorded _ => ?_⟩
    simpa [found, recorded] using stored
  · rintro raised authority marker rfl - starting
    exact absurd starting (of_decide_eq_true permitted)

/-- The ON of a manual session is not confirmed in time, and the OFF of its pulse begins. -/
def unconfirmedOnLabels : List (EntryLabel Unit) :=
  let authority : OnAuthority := ⟨[], false, ⟨true, true, false, Bool.and_false true⟩⟩
  let acts (count : Nat) : List ControllerLabel := List.replicate count (.act true)
  let labels : List (List ControllerLabel) :=
    [[.dispatch (.manualStartRequested (some 60))], acts 5,
      [.wake, .gate authority, .serviceReturned false authority, .reenter authority,
        .anchor true, .recheck authority, .dispatch .onConfirmTimeout], acts 4, [.wake]]
  labels.flatten.map (.controller () · "session")

/-- The zone still waters, its reason is committed, and the request of OFF is already taken. -/
theorem terminationReachesOff_of_run_unconfirmedOn :
    ∃ finish session,
      system.runWhile (fun entry label _ => entry.buildsCheck label)
        ⟨fun _ => sampleController, sampleShared⟩ unconfirmedOnLabels = some finish ∧
      (finish.controllers ()).state = .watering ∧
      (finish.controllers ()).session = some session ∧
      session.pendingTerminationReason = some .actuatorFault ∧
      (finish.controllers ()).offRequested = false ∧
      (finish.controllers ()).TerminationReachesOff := by
  obtain ⟨finish, ran, given⟩ := (Option.any_eq_true _ _).mp
    (show (system.runWhile (fun entry label _ => entry.buildsCheck label)
      ⟨fun _ => sampleController, sampleShared⟩ unconfirmedOnLabels).any (fun finish =>
        decide ((finish.controllers ()).state = .watering) &&
        !(finish.controllers ()).offRequested &&
        (finish.controllers ()).session.any fun session =>
          decide (session.pendingTerminationReason = some .actuatorFault)) = true
      by decide +kernel)
  simp only [Bool.and_eq_true, decide_eq_true_eq, Bool.not_eq_true', Option.any_eq_true] at given
  obtain ⟨⟨watering, taken⟩, session, held, committed⟩ := given
  exact ⟨finish, session, ran, watering, held, committed, taken, terminationReachesOff_of_run
    (.of_runWhile (fun _ _ _ => payloadsBuild_of_check) ran) (fun () => by decide +kernel)
    (fun _ => ⟨rfl, rfl, by rintro ⟨⟩⟩) ()⟩

/-! ## A sensor fault that is retained twice -/

def sensorFaultEntry : Entry Unit :=
  ⟨fun _ => { sampleController with state := .fault, activeFault := some .sensorUnavailable },
    { sampleShared with slots := { grantsEnabled := true } }⟩

private def present : ActuatorAssessment := ⟨true, true, false, Bool.and_false true⟩

private def absent : ActuatorAssessment := ⟨false, false, false, Bool.and_false false⟩

private def acts (count : Nat) : List ControllerLabel := List.replicate count (.act true)

private def takeSlot : List ControllerLabel := [.slotRequest, .slotResume, .slotOffer]

/-- A manual session on the retained sensor fault ends with the actuator gone: the sensor
fault becomes secondary and survives when the actuator fault clears.  The AUTO session that
follows loses the sensor again. -/
def retainedTwiceLabels : List (EntryLabel Unit) :=
  let manual : List (List ControllerLabel) :=
    [[.dispatch (.manualStartRequested (some 60))], acts 2, takeSlot, acts 5]
  let actuatorLost : List (List ControllerLabel) :=
    [[.actuatorEvent absent false false, .actuatorChange], acts 4,
      [.wake, .gate ⟨[], false, absent⟩, .wake, .offServiceReturned 0 present, .offDispatch 0],
      acts 5, [.offJoined, .wake, .moisture ⟨some 10, .valid, some 100⟩], acts 3]
  let auto : List (List ControllerLabel) :=
    [[.moisture ⟨some 10, .valid, some 2000⟩], acts 2, takeSlot, acts 6,
      [.wake, .gate ⟨[], false, present⟩, .serviceReturned false ⟨[], false, present⟩,
        .reenter ⟨[], false, present⟩, .anchor true, .recheck ⟨[], false, present⟩]]
  let sensorLost : List ControllerLabel := [.moisture ⟨none, .unavailable, none⟩, .act true]
  ((manual.append actuatorLost).flatten.map (.controller () · "manual")).append
    (.tick 2000 :: (auto.concat sensorLost).flatten.map (.controller () · "auto"))

private def stranded (controller : ZoneController) : Bool :=
  decide (controller.state = .watering) &&
    controller.session.any (fun session => session.pendingTerminationReason.isSome) &&
    !(controller.offRequested || controller.currentOffOperation.isSome ||
      controller.ahead.any isExecuteOff)

private theorem not_terminationReachesOff_of_stranded {controller : ZoneController}
    (strands : stranded controller = true) : ¬ controller.TerminationReachesOff := by
  intro reaches
  simp only [stranded, Bool.and_eq_true, decide_eq_true_eq, Bool.not_eq_true', Bool.or_eq_false_iff,
    Option.any_eq_true] at strands
  obtain ⟨⟨watering, session, held, pending⟩, ⟨requested, operation⟩, ahead⟩ := strands
  rcases reaches watering session held pending with answered | ⟨found, current, -⟩ | executes
  · simp [requested] at answered
  · simp [current] at operation
  · simp [ahead] at executes

/-- The committed write raises a `ValueError` that nothing handles: the session waters on
with its reason committed and without any OFF. -/
theorem not_terminationReachesOff_retained_twice :
    ¬ ∀ start finish : Entry Unit, system.Run (fun _ _ _ => True) start finish →
      start.RecordsKnown → (∀ key, (start.controllers key).Created) →
      ∀ key, (finish.controllers key).TerminationReachesOff := by
  intro claimed
  have strands : ((system.run sensorFaultEntry retainedTwiceLabels).any fun finish =>
      stranded (finish.controllers ())) = true := by decide +kernel
  obtain ⟨finish, executed, strands⟩ := (Option.any_eq_true _ _).mp strands
  refine not_terminationReachesOff_of_stranded strands
    (claimed sensorFaultEntry finish (LabelledSystem.Run.of_run executed) ?_ ?_ ())
  · exact fun () => by decide +kernel
  · exact fun _ => ⟨rfl, rfl, by rintro ⟨⟩⟩

end Entry

end MoistureLoop
