import MoistureLoop.Controller.Compensation
import MoistureLoop.Runtime.Shutdown
import MoistureLoop.Runtime.SoakTrust

/-! # Nothing is commanded after a shutdown began

From its first step on no controller calls the ON service, whatever the other tasks do, and
an ON command in flight is compensated, also when its task is cancelled. -/

open MoistureLoop.Action

namespace MoistureLoop

/-! ## The gates of a stopping process -/

namespace EntryView

variable {κ : Type} [DecidableEq κ] {view : EntryView κ} {key : κ}

theorem onAuthority_of_stopping (stopping : view.processStopping = true)
    (controller : ZoneController) (store : StoreData) (reading : ActuatorAssessment) :
    (view.onAuthority key controller store reading).failedAuthority ≠ [] := by
  simp [onAuthority, failedPredicates, reconciliationAdmissionClear, stopping]

end EntryView

namespace ZoneController

variable {controller next : ZoneController} {shared shared' : SharedState}

/-- What fails of the entry's authority fails the command, as a change of configuration. -/
theorem evaluateOnAuthority_of_failed {authority : OnAuthority} {sessionId : String}
    {preDispatch : Bool} (failed : authority.failedAuthority ≠ []) :
    (controller.evaluateOnAuthority shared sessionId preDispatch authority).authorized = false ∧
      (controller.evaluateOnAuthority shared sessionId preDispatch
        authority).configurationAuthorityValid = false := by
  have some' : ∀ rest, (authority.failedAuthority ++ rest).isEmpty = false := fun rest => by
    cases held : authority.failedAuthority with
    | nil => exact absurd held failed
    | cons _ _ => rfl
  simp only [OnAuthorization.authorized, evaluateOnAuthority, List.append_assoc, some', and_self]

/-- A change of configuration terminates what waters, and is ignored where nothing does. -/
theorem commitOnCompensationNow_of_changed (serviceFailed : Bool)
    (notSoaking : controller.state ≠ .soaking) :
    (controller.commitOnCompensationNow shared true serviceFailed).2 = false := by
  unfold commitOnCompensationNow
  cases held : controller.session with
  | none => rfl
  | some session =>
    obtain ⟨frame, state, fault, marked, opened, pending, -⟩ := markEstimated_frame session held
    have rolled := (controller.markEstimated session).rollDaily_sameDecided shared.calendar
      shared.now
    have session' := rolled.session.trans opened
    have state' := rolled.state.trans state
    simp only [compensationEvent, if_true]
    generalize (controller.markEstimated session).rollDaily shared.calendar shared.now = current
      at session' state'
    cases stands : controller.state with
    | soaking => exact absurd stands notSoaking
    | idle | disabled | fault =>
      simp [StateMachine.decide, StateMachine.decideIdle, StateMachine.decideDisabled,
        StateMachine.decideFault, StateMachine.noOp, buildInput, state', stands]
    | watering =>
      cases requested : marked.pendingTerminationReason with
      | some reason =>
        simp [StateMachine.decide, StateMachine.decideWatering, StateMachine.noOp, buildInput,
          state', stands, session', requested]
      | none =>
        simp [StateMachine.decide, StateMachine.decideWatering, StateMachine.commitTermination,
          buildInput, state', stands, session', requested, isCompensationAction]

/-- Outside a soak the loss of the configuration leads to an OFF operation. -/
theorem compensate_waits (serviceFailed : Bool) (notSoaking : controller.state ≠ .soaking) :
    ∃ operation, (controller.compensate shared true serviceFailed).sessionTask =
      some (.awaitingOff operation true) := by
  have calm := @commitOnCompensationNow_of_changed controller shared serviceFailed notSoaking
  simp only [compensate]
  rw [calm]
  obtain ⟨operation, waits, -⟩ :=
    (controller.commitOnCompensationNow shared true serviceFailed).1.ensureOffOperation_joins
      ((controller.commitOnCompensationNow shared true serviceFailed).1.session.map
        SessionContext.pulse) true
  exact ⟨operation, waits⟩

theorem recheckOn_waits {marker : InFlightOn} {authority : OnAuthority} (serviceFailed : Bool)
    {continued : ZoneController → ZoneController} (failed : authority.failedAuthority ≠ [])
    (notSoaking : controller.state ≠ .soaking) :
    ∃ operation, (controller.recheckOn shared marker authority serviceFailed continued).sessionTask =
      some (.awaitingOff operation true) := by
  obtain ⟨refused, changed⟩ :=
    @evaluateOnAuthority_of_failed controller shared authority marker.sessionId false failed
  simp only [recheckOn, if_pos (Or.inr refused), changed, Bool.not_false]
  apply compensate_waits
  rw [quiesceIf]
  split <;> exact notSoaking

/-- The steps at which `_perform_on` asks again whether its command may go on. -/
def rechecks : ControllerLabel → Bool
  | .serviceReturned _ _ | .reenter _ | .recheck _ => true
  | _ => false

theorem authority_of_rechecks {label : ControllerLabel} (asks : rechecks label = true) :
    ∃ authority, label.authority = some authority := by
  cases label with
  | serviceReturned | reenter | recheck => exact ⟨_, rfl⟩
  | _ => cases asks

/-- Without the entry's authority every recheck of a command leads to an OFF operation. -/
theorem step_waits {label : ControllerLabel} {authority : OnAuthority} {sessionId : String}
    (stepped : controller.step shared label sessionId = some (next, shared'))
    (rechecks : rechecks label = true) (carries : label.authority = some authority)
    (failed : authority.failedAuthority ≠ []) (notSoaking : controller.state ≠ .soaking) :
    ∃ operation, next.sessionTask = some (.awaitingOff operation true) := by
  cases label with
  | serviceReturned raised answer =>
    obtain rfl := Option.some.inj carries
    simp only [step, sessionStep] at stepped
    split at stepped
    case h_3 same _ _ =>
      obtain ⟨rfl, rfl⟩ := ControllerLabel.serviceReturned.inj same
      obtain ⟨rfl, -⟩ := Prod.mk.inj (Option.some.inj stepped)
      exact recheckOn_waits _ failed notSoaking
    all_goals contradiction
  | reenter answer =>
    obtain rfl := Option.some.inj carries
    simp only [step, sessionStep] at stepped
    split at stepped
    case h_4 same _ _ _ =>
      obtain rfl := ControllerLabel.reenter.inj same
      obtain ⟨rfl, -⟩ := Prod.mk.inj (Option.some.inj stepped)
      exact recheckOn_waits _ failed notSoaking
    all_goals contradiction
  | recheck answer =>
    obtain rfl := Option.some.inj carries
    simp only [step, sessionStep] at stepped
    split at stepped
    case h_6 same _ _ _ =>
      obtain rfl := ControllerLabel.recheck.inj same
      obtain ⟨rfl, -⟩ := Prod.mk.inj (Option.some.inj stepped)
      exact recheckOn_waits _ failed notSoaking
    all_goals contradiction
  | _ => cases rechecks

/-! ## Cancellation -/

/-- The `CancelledError` handler of `_perform_on` finds an ON command that was dispatched. -/
def rechecksCancelled (controller : ZoneController) (again : Bool) : Bool :=
  match controller.sessionTask with
  | some .commanding | some .reentering | some .anchoring => controller.inflightOn.isSome
  | some (.awaitingOff _ true) => controller.inflightOn.isSome && !again
  | _ => false

/-- Without the entry's authority a cancelled command leads to an OFF operation. -/
theorem cancelSessionTask_waits {authority : OnAuthority} {again : Bool}
    (rechecks : controller.rechecksCancelled again = true)
    (failed : authority.failedAuthority ≠ []) (notSoaking : controller.state ≠ .soaking) :
    ∃ operation, (controller.cancelSessionTask shared authority again).sessionTask =
      some (.awaitingOff operation true) := by
  have waits : ∀ marker, ∃ operation,
      ((controller.releaseSession.recordPossibleCommand marker).recheckOn shared marker authority
        true id).sessionTask = some (.awaitingOff operation true) := by
    intro marker
    exact recheckOn_waits true failed notSoaking
  unfold rechecksCancelled at rechecks
  unfold cancelSessionTask
  simp only
  split
  · exact waits _
  · exact waits _
  · exact waits _
  · rename_i operation marker task inflight
    simp only [task, inflight, Option.isSome_some, Bool.true_and, Bool.not_eq_true'] at rechecks
    simp only [rechecks, Bool.false_eq_true, if_false]
    exact waits marker
  · rename_i commanding reentering anchoring awaiting
    exfalso
    cases inflight : controller.inflightOn with
    | none => split at rechecks <;> simp_all
    | some marker => split at rechecks <;> simp_all

end ZoneController

/-! ## What the pass does to a controller -/

namespace ZoneController

structure CallsNothing (controller next : ZoneController) : Prop where
  identity : next.identity = controller.identity
  dispatches : next.dispatches = controller.dispatches

variable {controller next : ZoneController}

theorem CallsNothing.refl (controller : ZoneController) : CallsNothing controller controller :=
  ⟨rfl, rfl⟩

theorem CallsNothing.trans {third : ZoneController} (left : CallsNothing controller next)
    (right : CallsNothing next third) : CallsNothing controller third :=
  ⟨right.identity.trans left.identity, right.dispatches.trans left.dispatches⟩

theorem beginQuiescing_callsNothing (controller : ZoneController) :
    CallsNothing controller controller.beginQuiescing := ⟨rfl, rfl⟩

theorem beginOffOperation_callsNothing (controller : ZoneController)
    (requestedFor : Option PulseId) :
    CallsNothing controller (controller.beginOffOperation requestedFor) := by
  unfold beginOffOperation
  split <;> exact ⟨rfl, rfl⟩

theorem beginShutdownOff_callsNothing (controller : ZoneController) (store : StoreData) :
    CallsNothing controller (controller.beginShutdownOff store) := by
  unfold beginShutdownOff
  split
  · exact .refl _
  · split
    · exact .refl _
    · split
      · exact .refl _
      · exact beginOffOperation_callsNothing _ _

theorem decideAndApply_callsNothing (controller : ZoneController) (shared : SharedState)
    (event : ControllerEvent) (applier : Applier) (sessionId : String) :
    CallsNothing controller (controller.decideAndApply shared event applier sessionId) :=
  ⟨decideAndApply_identity event applier sessionId, decideAndApply_dispatches event applier⟩

/-- The compensation of a cancelled command calls OFF alone. -/
theorem cancelSessionTask_callsNothing (controller : ZoneController) (shared : SharedState)
    (authority : OnAuthority) (again : Bool) :
    CallsNothing controller (controller.cancelSessionTask shared authority again) := by
  have rechecked : ∀ marker, CallsNothing controller
      ((controller.releaseSession.recordPossibleCommand marker).recheckOn shared marker authority
        true id) := by
    intro marker
    have recorded : CallsNothing controller
        (controller.releaseSession.recordPossibleCommand marker) := ⟨rfl, rfl⟩
    rcases (controller.releaseSession.recordPossibleCommand marker).recheckOn_cases shared marker
      authority true id with same | ⟨required, changed, same⟩
    · rw [same]
      exact recorded
    · rw [same]
      refine recorded.trans ⟨(compensate_identity _ _).trans ?_, (compensate_dispatches _ _).trans ?_⟩
      · unfold quiesceIf
        split <;> rfl
      · unfold quiesceIf
        split <;> rfl
  unfold cancelSessionTask
  simp only
  split
  · exact rechecked _
  · exact rechecked _
  · exact rechecked _
  · split
    · exact ⟨rfl, rfl⟩
    · exact rechecked _
  · exact ⟨rfl, rfl⟩

theorem rollDaily_callsNothing (controller : ZoneController) (calendar : LocalCalendar)
    (now : Instant) : CallsNothing controller (controller.rollDaily calendar now) := by
  have rolled := controller.rollDaily_sameDecided calendar now
  exact ⟨rolled.identity, rolled.dispatches⟩

theorem persist_run {store store' : StoreData} {saved : Bool}
    (persisted : controller.persist store saved = .ok store') : store'.run = store.run := by
  unfold persist at persisted
  split at persisted
  · cases persisted
  · rename_i data payload
    unfold persistPayload at payload
    split at payload
    · cases payload
    · obtain ⟨_, _, _, -, -, -, -, stored⟩ := updateControllerRuntime_eq_ok_iff.mp payload
      unfold saveAndVerify at persisted
      split at persisted
      · obtain rfl := Except.ok.inj persisted
        rw [stored]
        rfl
      · cases persisted

end ZoneController

open ZoneController (CallsNothing)

namespace StoppingEntry

variable {κ : Type} [DecidableEq κ] {state next start finish : StoppingEntry κ}
  {label : ShutdownLabel κ} {shutdown : Stage1Shutdown κ} {key : κ}

/-- What every step of the pass keeps, and what all but the marker keep. -/
structure PassMove (state : StoppingEntry κ) (label : ShutdownLabel κ)
    (next : StoppingEntry κ) : Prop where
  view : next.view = state.view
  controllers : ∀ key, CallsNothing (state.entry.controllers key) (next.entry.controllers key)
  run : (∀ saved, label ≠ .mark saved) →
    next.entry.shared.store.run = state.entry.shared.store.run
  begun : next.shutdown.isSome = true

omit [DecidableEq κ] in
theorem PassMove.goOn (state : StoppingEntry κ) (label : ShutdownLabel κ)
    (shutdown : Stage1Shutdown κ) : PassMove state label (state.goOn shutdown) :=
  ⟨rfl, fun _ => .refl _, fun _ => rfl, rfl⟩

theorem modify_callsNothing {change : ZoneController → ZoneController}
    (calls : CallsNothing (state.entry.controllers key) (change (state.entry.controllers key)))
    (other : κ) :
    CallsNothing (state.entry.controllers other)
      ((state.modify key change).entry.controllers other) := by
  by_cases same : other = key
  · subst same
    simpa [StoppingEntry.modify] using calls
  · simpa [StoppingEntry.modify, Function.update_of_ne same] using
      CallsNothing.refl (state.entry.controllers other)

theorem PassMove.modify {change : ZoneController → ZoneController}
    (calls : CallsNothing (state.entry.controllers key) (change (state.entry.controllers key)))
    (shutdown : Stage1Shutdown κ) :
    PassMove state label ((state.modify key change).goOn shutdown) :=
  ⟨rfl, modify_callsNothing calls, fun _ => rfl, rfl⟩

theorem signal_moves (rest : List κ) (reading : ActuatorAssessment) :
    PassMove state label (state.signal shutdown key rest reading) := by
  unfold signal
  simp only
  split
  · exact .goOn _ _ _
  · exact .modify ⟨rfl, rfl⟩ _
  · exact .goOn _ _ _

theorem afterSignal_moves (rest : List κ) (after : AfterSignal) :
    PassMove state label (state.afterSignal shutdown key rest after) := by
  cases after with
  | watering =>
    simp only [afterSignal]
    split
    · exact .modify (ZoneController.beginOffOperation_callsNothing _ _) _
    · exact .goOn _ _ _
  | preserved | terminated => exact .goOn _ _ _
  | interfered => exact .modify (ZoneController.beginShutdownOff_callsNothing _ _) _

omit [DecidableEq κ] in
theorem visit_moves (rest : List κ) :
    PassMove state label (state.visit shutdown key rest) := by
  unfold visit
  simp only
  split
  · exact .goOn _ _ _
  · split <;> exact .goOn _ _ _

theorem write_moves (rest : List κ) (saved : Bool) :
    PassMove state label (state.write shutdown key rest saved) := by
  have rolled := (state.entry.controllers key).rollDaily_callsNothing state.entry.shared.calendar
    state.entry.shared.now
  have moved : ∀ shutdown', PassMove state label ((state.modify key fun _ =>
      (state.entry.controllers key).rollDaily state.entry.shared.calendar
        state.entry.shared.now).goOn shutdown') := fun shutdown' => .modify rolled shutdown'
  unfold write
  simp only
  split
  · rename_i store persisted
    exact ⟨rfl, (moved shutdown).controllers, fun _ => ZoneController.persist_run persisted, rfl⟩
  · exact moved _
  · exact moved _

theorem check_moves (readings : κ → ActuatorAssessment) :
    PassMove state label (state.check shutdown readings) := by
  refine ⟨rfl, fun other => ?_, fun _ => rfl, rfl⟩
  simp only [check]
  split <;> exact ⟨rfl, rfl⟩

omit [DecidableEq κ] in
theorem mark_moves (saved : Bool) :
    PassMove state (.mark saved) (state.mark shutdown saved) := by
  have same : (∀ saved', (ShutdownLabel.mark saved : ShutdownLabel κ) ≠ .mark saved') → False :=
    fun differs => differs saved rfl
  unfold mark
  split <;> exact ⟨rfl, fun _ => .refl _, fun differs => (same differs).elim, rfl⟩

theorem pass_moves (passed : state.pass shutdown label = some next) :
    PassMove state label next := by
  cases label with
  | entry | viewed | transaction | rebased | cancelled | initiate => cases passed
  | signal reading =>
    simp only [pass] at passed
    split at passed
    · exact Option.some.inj passed ▸ signal_moves _ reading
    · exact Option.some.inj passed ▸ .goOn _ _ _
    · cases passed
  | dispatch sessionId =>
    simp only [pass] at passed
    split at passed
    · obtain ⟨-, passed⟩ := Option.ite_none_right_eq_some.mp passed
      exact Option.some.inj passed ▸
        .modify (ZoneController.decideAndApply_callsNothing _ _ _ _ _) _
    · cases passed
  | dispatched =>
    simp only [pass] at passed
    split at passed
    · obtain ⟨-, passed⟩ := Option.ite_none_right_eq_some.mp passed
      exact Option.some.inj passed ▸ afterSignal_moves _ _
    · cases passed
  | converged =>
    simp only [pass] at passed
    split at passed
    · exact Option.some.inj passed ▸ .goOn _ _ _
    · exact Option.some.inj passed ▸ .goOn _ _ _
    · cases passed
  | joined error =>
    simp only [pass] at passed
    split at passed
    · exact Option.some.inj passed ▸ .goOn _ _ _
    · cases passed
  | visit =>
    simp only [pass] at passed
    split at passed
    · exact Option.some.inj passed ▸ visit_moves _
    · exact Option.some.inj passed ▸ .goOn _ _ _
    · cases passed
  | write saved =>
    simp only [pass] at passed
    split at passed
    · obtain ⟨-, passed⟩ := Option.ite_none_right_eq_some.mp passed
      exact Option.some.inj passed ▸ write_moves _ saved
    · cases passed
  | check readings =>
    simp only [pass] at passed
    split at passed
    · exact Option.some.inj passed ▸ check_moves readings
    · cases passed
  | mark saved =>
    simp only [pass] at passed
    split at passed
    · exact Option.some.inj passed ▸ mark_moves saved
    · cases passed
  | interrupted failure =>
    simp only [pass] at passed
    split at passed
    · cases passed
    · exact Option.some.inj passed ▸ .goOn _ _ _

/-! ## Steps -/

/-- A step of another task: of the entry, of what the gates read, or a transaction. -/
inductive OthersMove (state : StoppingEntry κ) : ShutdownLabel κ → StoppingEntry κ → Prop where
  | entry {label : EntryLabel κ} {entry : Entry κ} (asked : state.asked label = true)
      (stepped : state.entry.step label = some entry) (kept : ∀ data, label ≠ .storeChanged data) :
      OthersMove state (.entry label) { state with entry := entry }
  | viewed {view : EntryView κ} (stopping : view.processStopping = state.view.processStopping) :
      OthersMove state (.viewed view) { state with view := view }
  | transaction {change : EntryTransaction} {saved : Bool} {data : StoreData}
      (result : change.result state.entry.shared.store = .ok (some data)) :
      OthersMove state (.transaction change saved) (state.withStore data)
  | rebased {safetyRecordId newRunId : String} {saved : Bool} {data : StoreData}
      (rebased : rebaseSoakingOwnerForRecord state.entry.shared.store safetyRecordId newRunId =
        .ok data) :
      OthersMove state (.rebased safetyRecordId newRunId saved) (state.withStore data)
  | cancelled {key : κ} {authority : OnAuthority} {again : Bool}
      (answers : state.answers key authority = true) :
      OthersMove state (.cancelled key authority again)
        (state.modify key (·.cancelSessionTask state.entry.shared authority again))

theorem eq_of_saveAndVerify {data stored : StoreData} {saved : Bool}
    (verified : (saveAndVerify data saved).toOption = some stored) : data = stored := by
  unfold saveAndVerify at verified
  split at verified
  · exact Option.some.inj verified
  · cases verified

/-- A step initiates the shutdown, joins the one there is, is one of the pass, or is another
task's. -/
theorem step_cases (stepped : state.step label = some next) :
    (∃ snapshot error, label = .initiate snapshot error ∧
      (state.shutdown = none ∧ next = state.initiate snapshot error ∨
        state.shutdown.isSome = true ∧ next = state)) ∨
    (∃ shutdown, state.shutdown = some shutdown ∧ state.pass shutdown label = some next) ∨
    OthersMove state label next := by
  cases label with
  | entry label' =>
    refine .inr (.inr ?_)
    cases label' with
    | storeChanged => cases stepped
    | controller | tick | admission =>
      simp only [step] at stepped
      obtain ⟨asked, stepped⟩ := Option.ite_none_right_eq_some.mp stepped
      obtain ⟨entry, moved, rfl⟩ := Option.map_eq_some_iff.mp stepped
      exact .entry asked moved fun _ => by simp
  | viewed view =>
    simp only [step] at stepped
    obtain ⟨⟨stopping, -⟩, stepped⟩ := Option.ite_none_right_eq_some.mp stepped
    exact .inr (.inr (Option.some.inj stepped ▸ .viewed stopping))
  | transaction change saved =>
    simp only [step] at stepped
    split at stepped
    · rename_i data result
      obtain ⟨stored, verified, rfl⟩ := Option.map_eq_some_iff.mp stepped
      obtain rfl := eq_of_saveAndVerify verified
      exact .inr (.inr (.transaction result))
    · cases stepped
  | rebased safetyRecordId newRunId saved =>
    simp only [step] at stepped
    split at stepped
    · rename_i data rebased
      obtain ⟨stored, verified, rfl⟩ := Option.map_eq_some_iff.mp stepped
      obtain rfl := eq_of_saveAndVerify verified
      exact .inr (.inr (.rebased rebased))
    · cases stepped
  | cancelled key authority again =>
    simp only [step] at stepped
    obtain ⟨answers, stepped⟩ := Option.ite_none_right_eq_some.mp stepped
    exact .inr (.inr (Option.some.inj stepped ▸ .cancelled answers))
  | initiate snapshot error =>
    simp only [step] at stepped
    refine .inl ⟨snapshot, error, rfl, ?_⟩
    split at stepped
    · rename_i held
      exact .inr ⟨by rw [held]; rfl, (Option.some.inj stepped).symm⟩
    · rename_i held
      exact .inl ⟨held, (Option.some.inj stepped).symm⟩
  | _ => exact .inr (.inl (Option.bind_eq_some_iff.mp stepped))

theorem OthersMove.keepsShutdown (moved : OthersMove state label next) :
    next.shutdown = state.shutdown := by
  cases moved <;> rfl

theorem OthersMove.safetyRecordId (moved : OthersMove state label next) (key : κ) :
    (next.entry.controllers key).safetyRecordId = (state.entry.controllers key).safetyRecordId := by
  cases moved with
  | viewed | transaction | rebased => rfl
  | entry _ stepped _ => exact congrArg Prod.snd (Entry.step_identity stepped key)
  | cancelled => exact congrArg Prod.snd (modify_callsNothing
      (ZoneController.cancelSessionTask_callsNothing _ _ _ _) key).identity

omit [DecidableEq κ] in
theorem run_of_rebased {data next : StoreData} {safetyRecordId newRunId : String}
    (rebased : rebaseSoakingOwnerForRecord data safetyRecordId newRunId = .ok next) :
    next.run = data.run := by
  unfold rebaseSoakingOwnerForRecord at rebased
  split at rebased
  · cases rebased
  · split at rebased
    · cases rebased
    · split at rebased
      · cases rebased
      · rw [StoreFields.check_eq_ok_iff.mp rebased]

/-- The run IDs are written by the marker alone. -/
theorem OthersMove.run (moved : OthersMove state label next) :
    next.entry.shared.store.run = state.entry.shared.store.run := by
  cases moved with
  | viewed | cancelled => rfl
  | transaction result => exact (EntryTransaction.opensNoSession result).run
  | rebased rebased => exact run_of_rebased rebased
  | entry _ stepped kept =>
    rename_i label _ _
    cases label with
    | storeChanged data => exact absurd rfl (kept data)
    | tick | admission =>
      obtain rfl := Option.some.inj stepped
      rfl
    | controller acting label' sessionId =>
      obtain ⟨⟨controller, shared⟩, acted, rfl⟩ := Option.map_eq_some_iff.mp stepped
      exact (ZoneController.step_storesSession acted).run

theorem initiate_callsNothing (snapshot : List κ) (error : String) (key : κ) :
    CallsNothing (state.entry.controllers key)
      ((state.initiate snapshot error).entry.controllers key) := by
  have quiesced := (state.entry.controllers key).beginQuiescing_callsNothing
  simp only [initiate]
  split
  · split
    · exact quiesced
    · exact quiesced.trans (ZoneController.beginShutdownOff_callsNothing _ _)
  · exact .refl _

/-- A step of another task calls ON only with the authority of the entry. -/
theorem OthersMove.dispatches (moved : OthersMove state label next)
    (stopping : state.view.processStopping = true) :
    (next.entry.controllers key).dispatches = (state.entry.controllers key).dispatches := by
  cases moved with
  | viewed | transaction | rebased => rfl
  | cancelled => exact (modify_callsNothing
      (ZoneController.cancelSessionTask_callsNothing _ _ _ _) key).dispatches
  | entry asked stepped _ =>
    rcases Entry.step_cases stepped with
      ⟨acting, label', sessionId, controller, shared, rfl, acted, rfl⟩ | kept
    · by_cases same : key = acting
      · subst same
        simp only [Function.update_self]
        by_contra calls
        obtain ⟨authority, session, rfl, -, -, -, authorized, -⟩ :=
          ZoneController.step_dispatchOn acted calls
        have failed : authority.failedAuthority ≠ [] := by
          rw [show authority = _ from of_decide_eq_true (show state.answers key authority = true
            from asked)]
          exact EntryView.onAuthority_of_stopping stopping _ _ _
        rw [(ZoneController.evaluateOnAuthority_of_failed failed).1] at authorized
        cases authorized
      · simp [Function.update_of_ne same]
    · simp only [kept.controllers]

theorem step_dispatches (stepped : state.step label = some next)
    (stopping : state.view.processStopping = true) (key : κ) :
    (next.entry.controllers key).dispatches = (state.entry.controllers key).dispatches := by
  rcases step_cases stepped with
    ⟨snapshot, error, -, ⟨-, rfl⟩ | ⟨-, rfl⟩⟩ | ⟨shutdown, -, passed⟩ | moved
  · exact (initiate_callsNothing snapshot error key).dispatches
  · rfl
  · exact ((pass_moves passed).controllers key).dispatches
  · exact moved.dispatches stopping

/-- A process whose shutdown has begun goes on stopping. -/
def Stopping (state : StoppingEntry κ) : Prop :=
  state.shutdown.isSome = true → state.view.processStopping = true

theorem Stopping.step (stops : state.Stopping) (stepped : state.step label = some next) :
    next.Stopping := by
  rcases step_cases stepped with
    ⟨snapshot, error, -, ⟨-, rfl⟩ | ⟨-, rfl⟩⟩ | ⟨shutdown, held, passed⟩ | moved
  · exact fun _ => rfl
  · exact stops
  · intro _
    rw [(pass_moves passed).view]
    exact stops (by rw [held]; rfl)
  · cases moved with
    | entry | transaction | rebased | cancelled => exact stops
    | viewed same => exact fun begun => same.trans (stops begun)

theorem step_shutdown (stepped : state.step label = some next)
    (begun : state.shutdown.isSome = true) : next.shutdown.isSome = true := by
  rcases step_cases stepped with
    ⟨snapshot, error, -, ⟨-, rfl⟩ | ⟨-, rfl⟩⟩ | ⟨shutdown, held, passed⟩ | moved
  · rfl
  · exact begun
  · exact (pass_moves passed).begun
  · rw [moved.keepsShutdown]
    exact begun

/-! ## Runs -/

/-- The steps at which `_perform_on` asks whether the command of a controller may go on: after
the service call, under the lock, and when its task is cancelled with a command in flight. -/
def rechecks (state : StoppingEntry κ) (key : κ) : ShutdownLabel κ → Bool
  | .entry (.controller acting label _) => acting = key && ZoneController.rechecks label
  | .cancelled acting _ again =>
    acting = key && (state.entry.controllers key).rechecksCancelled again
  | _ => false

/-- The answer to a recheck is a refusal once the process stops. -/
theorem failedAuthority_of_answers {authority : OnAuthority}
    (answers : state.answers key authority = true) (stopping : state.view.processStopping = true) :
    authority.failedAuthority ≠ [] := by
  rw [show authority = _ from of_decide_eq_true answers]
  exact EntryView.onAuthority_of_stopping stopping _ _ _

theorem step_waits (stopping : state.view.processStopping = true)
    (rechecks : state.rechecks key label = true)
    (notSoaking : (state.entry.controllers key).state ≠ .soaking)
    (stepped : state.step label = some next) :
    ∃ operation, (next.entry.controllers key).sessionTask =
      some (.awaitingOff operation true) := by
  rcases step_cases stepped with ⟨_, _, rfl, -⟩ | ⟨_, -, passed⟩ | moved
  · cases rechecks
  · cases label with
    | entry | cancelled => cases passed
    | _ => cases rechecks
  · cases moved with
    | viewed | transaction | rebased => cases rechecks
    | cancelled answers =>
      obtain ⟨same, inflight⟩ := Bool.and_eq_true_iff.mp rechecks
      obtain rfl := of_decide_eq_true same
      simpa [StoppingEntry.modify] using ZoneController.cancelSessionTask_waits inflight
        (failedAuthority_of_answers answers stopping) notSoaking
    | entry asked acted _ =>
      rename_i label _ _
      cases label with
      | controller acting label sessionId =>
        obtain ⟨same, asks⟩ := Bool.and_eq_true_iff.mp rechecks
        obtain rfl := of_decide_eq_true same
        obtain ⟨⟨controller, shared⟩, moves, rfl⟩ := Option.map_eq_some_iff.mp acted
        obtain ⟨authority, carries⟩ := ZoneController.authority_of_rechecks asks
        have answered := asked
        simp only [StoppingEntry.asked, carries, Option.all_some] at answered
        simpa using ZoneController.step_waits moves asks carries
          (failedAuthority_of_answers answered stopping) notSoaking
      | _ => cases rechecks

/-- From the first step of a shutdown on no controller calls the ON service, and each recheck
of a command in flight outside a soak leads to an OFF operation. -/
theorem commandsNothing_of_run {begun : StoppingEntry κ}
    (before : system.Run (fun _ _ _ => True) start begun) (unbegun : start.shutdown = none)
    (initiated : begun.shutdown.isSome = true)
    (reached : system.Run (fun _ _ _ => True) begun finish) (key : κ) :
    (finish.entry.controllers key).dispatches = (begun.entry.controllers key).dispatches ∧
      ∀ label next, finish.rechecks key label = true →
        (finish.entry.controllers key).state ≠ .soaking →
        system.step finish label = some next →
        ∃ operation, (next.entry.controllers key).sessionTask =
          some (.awaitingOff operation true) := by
  have stops : begun.Stopping :=
    before.preserves (fun begun => by simp [unbegun] at begun) fun _ _ _ stops stepped _ =>
      stops.step stepped
  have invariant : (finish.Stopping ∧ finish.shutdown.isSome = true) ∧
      (finish.entry.controllers key).dispatches = (begun.entry.controllers key).dispatches := by
    apply reached.preserves ⟨⟨stops, initiated⟩, rfl⟩
    rintro state label next ⟨⟨stops, initiated⟩, same⟩ stepped -
    exact ⟨⟨stops.step stepped, step_shutdown stepped initiated⟩,
      (step_dispatches stepped (stops initiated) key).trans same⟩
  obtain ⟨⟨stops, initiated⟩, same⟩ := invariant
  exact ⟨same, fun label next rechecks notSoaking stepped =>
    step_waits (stops initiated) rechecks notSoaking stepped⟩

/-- The sample zone at rest. -/
def quietEntry : StoppingEntry Unit :=
  { entry := Commanded.atRest.entry, view := Commanded.atRest.view }

/-- A manual start up to its ON command, then the shutdown. -/
def flowingLabels : List (ShutdownLabel Unit) :=
  let labels : List ControllerLabel :=
    [.dispatch (.manualStartRequested (some 60)), .act true, .act true, .act true, .act true,
      .act true, .wake, .gate ⟨[], false, ⟨true, true, false, Bool.and_false true⟩⟩]
  (labels.map fun label => .entry (.controller () label "first")).append [.initiate [()] ""]

/-- The pass signals the watering zone and waits for its OFF operation. -/
def signalledLabels : List (ShutdownLabel Unit) :=
  let reading : ActuatorAssessment := ⟨true, true, false, Bool.and_false true⟩
  let act : ShutdownLabel Unit := .entry (.controller () (.act true) "stop")
  [.signal reading, .dispatch "stop", act, act, act, .dispatched, .signal reading]

/-- The budget runs out while the ON call has not returned. -/
def cancelledLabel : ShutdownLabel Unit :=
  .cancelled () ⟨["reconciliation_admission_clear"], false, ⟨true, true, false, Bool.and_false true⟩⟩
    false

/-- A shutdown that finds an ON command in flight and cancels it. -/
theorem commandsNothing_of_run_flowing :
    ∃ begun stopping finish : StoppingEntry Unit,
      system.run quietEntry flowingLabels = some begun ∧
      (begun.entry.controllers ()).inflightOn.isSome = true ∧
      system.run begun signalledLabels = some stopping ∧
      system.step stopping cancelledLabel = some finish ∧
      (∃ operation, (finish.entry.controllers ()).sessionTask =
        some (.awaitingOff operation true)) ∧
      (finish.entry.controllers ()).dispatches = (begun.entry.controllers ()).dispatches := by
  obtain ⟨begun, executed, found⟩ := (Option.any_eq_true _ _).mp
    (show (system.run quietEntry flowingLabels).any (fun begun =>
      begun.shutdown.isSome && (begun.entry.controllers ()).inflightOn.isSome &&
        (system.run begun signalledLabels).any fun stopping =>
          stopping.rechecks () cancelledLabel &&
            decide ((stopping.entry.controllers ()).state ≠ .soaking) &&
            (system.step stopping cancelledLabel).isSome) = true
      by decide +kernel)
  simp only [Bool.and_eq_true] at found
  obtain ⟨⟨initiated, inflight⟩, signalled⟩ := found
  obtain ⟨stopping, signals, found⟩ := (Option.any_eq_true _ _).mp signalled
  simp only [Bool.and_eq_true, decide_eq_true_eq] at found
  obtain ⟨⟨rechecks, notSoaking⟩, cancels⟩ := found
  obtain ⟨finish, stepped⟩ := Option.isSome_iff_exists.mp cancels
  have reached := LabelledSystem.Run.of_run signals
  have before := commandsNothing_of_run (LabelledSystem.Run.of_run executed) rfl initiated reached ()
  have after := commandsNothing_of_run (LabelledSystem.Run.of_run executed) rfl initiated
    (.step cancelledLabel reached stepped trivial) ()
  exact ⟨begun, stopping, finish, executed, inflight, signals, stepped,
    before.2 cancelledLabel finish rechecks notSoaking stepped, after.1⟩

end StoppingEntry

end MoistureLoop
