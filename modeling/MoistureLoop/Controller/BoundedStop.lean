import MoistureLoop.Controller.PulseSteps
import MoistureLoop.Controller.TurnOnOnce

/-! # Watering always has a bounded stop

A run in which timers fire: the callback of a due timer pops its handle and creates the task
that dispatches its event, which waits for the transition lock.  In every such run a flowing
pulse has OFF under way, or its stop timer is armed or has its event waiting. -/

namespace MoistureLoop

/-! ## Timers that fire -/

/-- An entry with the timers of one controller that have fired and whose event waits for the
transition lock.  `revoked` says that the flowing pulse has lost its timers: to a quiescing step
that has not dispatched its event yet, or because the pulse was restored from the store and has
not been recovered yet. -/
structure TimedEntry (κ : Type) where
  entry : Entry κ
  fired : List (TimerKind × Instant) := []
  revoked : Bool := false

inductive TimedLabel (κ : Type) where
  | entry (label : EntryLabel κ)
  | fire (timer : TimerKind × Instant)
  | deliver (timer : TimerKind × Instant) (sessionId : String)

/-- Whether a pulse flows, as a check. -/
def ZoneController.flowsNow (controller : ZoneController) : Bool :=
  controller.state = .watering &&
    controller.session.any fun session => session.pendingTerminationReason.isNone

theorem ZoneController.Flows.now {controller : ZoneController} {pulse : SessionContext}
    (flows : controller.Flows pulse) : controller.flowsNow = true := by
  simp [flowsNow, flows.watering, flows.held, flows.uncommitted]

theorem ZoneController.flows_of_now {controller : ZoneController}
    (now : controller.flowsNow = true) : ∃ pulse, controller.Flows pulse := by
  simp only [flowsNow, Bool.and_eq_true, decide_eq_true_eq] at now
  obtain ⟨pulse, held, uncommitted⟩ := (Option.any_eq_true _ _).mp now.2
  exact ⟨pulse, now.1, held, Option.isNone_iff_eq_none.mp uncommitted⟩

namespace TimedEntry

variable {κ : Type} [DecidableEq κ]

/-- The controller whose timers these are. -/
abbrev controller (timed : TimedEntry κ) (key : κ) : ZoneController := timed.entry.controllers key

/-- Quiescing revokes the timers until its event, or the recovery of a restored pulse, has been
dispatched. -/
def revokedAfter (timed : TimedEntry κ) (key : κ) : EntryLabel κ → Bool
  | .controller acting .quiesce _ => timed.revoked || decide (acting = key)
  | .controller acting (.dispatch event) _ =>
    timed.revoked && !(decide (acting = key) && event.settlesPulse)
  | _ => timed.revoked

/-- Replace the controller; only a pulse that flows can have been revoked. -/
def moved (timed : TimedEntry κ) (key : κ) (next : ZoneController)
    (fired : List (TimerKind × Instant)) : TimedEntry κ where
  entry := { timed.entry with controllers := Function.update timed.entry.controllers key next }
  fired := fired
  revoked := timed.revoked && next.flowsNow

/-- A step of the entry; `_fired`, which pops the handle of a due timer and creates the task
of its event; and that task, once it has the lock. -/
def step (key : κ) (timed : TimedEntry κ) : TimedLabel κ → Option (TimedEntry κ)
  | .entry label => (timed.entry.step label).map fun entry =>
    { timed with
      entry := entry
      revoked := timed.revokedAfter key label && (entry.controllers key).flowsNow }
  | .fire timer =>
    if timer ∈ (timed.controller key).timers ∧ timer.2 ≤ timed.entry.shared.now then
      some (timed.moved key
        { timed.controller key with
          timers := (timed.controller key).timers.filter (· ≠ timer) } (timer :: timed.fired))
    else none
  | .deliver timer sessionId =>
    if timer ∈ timed.fired ∧ (timed.controller key).locked = none then
      some (timed.moved key
        ((timed.controller key).decideAndApply timed.entry.shared timer.1.event .event sessionId)
        (timed.fired.erase timer))
    else none

/-- The entry with the fired timers of one controller as a labelled system. -/
def system (key : κ) : LabelledSystem (TimedEntry κ) (TimedLabel κ) := ⟨step key⟩

/-- The controller has just been attached: no coroutine of it runs, and a pulse it has restored
has no timers. -/
structure Attached (timed : TimedEntry κ) (key : κ) : Prop where
  unlocked : (timed.controller key).locked = none
  fresh : (timed.controller key).offOperation = none
  restored : (timed.controller key).state = .watering → timed.revoked = true

/-- Every write of the controller succeeds, and the entry answers its gates from what it reads. -/
structure Succeeds (key : κ) (timed : TimedEntry κ) (label : TimedLabel κ) (_ : TimedEntry κ) :
    Prop where
  written : ∀ label' sessionId, label = .entry (.controller key label' sessionId) →
    (timed.controller key).WriteSucceeds timed.entry.shared label'
  answered : ∀ label' sessionId authority, label = .entry (.controller key label' sessionId) →
    label'.authority = some authority → ∃ view : EntryView κ,
      authority = view.onAuthority key (timed.controller key) timed.entry.shared.store
        authority.reading

/-- A pulse that flows while no decision is being applied, and whose timers are not revoked, has
OFF requested, an OFF operation running, or its stop timer armed or among the `waiting`. -/
def StopBounded (timed : TimedEntry κ) (key : κ) (waiting : List (TimerKind × Instant)) : Prop :=
  ∀ pulse, (timed.controller key).Flows pulse → (timed.controller key).applying = false →
    timed.revoked = false →
    (timed.controller key).offRequested = true ∨ (timed.controller key).offOperationActive = true ∨
      ∃ timer, pulse.stop (timed.controller key).config = some timer ∧
        (timer ∈ (timed.controller key).timers ∨ timer ∈ waiting)

/-- The manual session that a decision starts respects the request and every cap of its input. -/
def ManualClamped (timed : TimedEntry κ) (key : κ) : Prop :=
  ∀ decision input rest applier,
    (timed.controller key).locked = some (.applying decision input rest applier) →
    ∀ session, decision.session = some session → session.mode = .manual → input.session = none →
      ∃ requested effective, session.manualRequestedDurationS = some requested ∧
        session.manualEffectiveDurationS = some effective ∧ effective ≤ requested ∧
        effective ≤ input.config.manualMaxDurationS ∧
        effective ≤ input.config.maxSessionRuntimeS ∧
        effective ≤ StateMachine.dailyRemaining input

variable {key : κ} {timed next start finish : TimedEntry κ} {label : TimedLabel κ}

/-- The invariant of a run. -/
abbrev Sound (timed : TimedEntry κ) (key : κ) : Prop :=
  (timed.controller key).Bounded timed.fired timed.revoked

omit [DecidableEq κ] in
theorem Attached.sound (attached : timed.Attached key) : timed.Sound key := by
  refine .of_guarded (ZoneController.applying_of_unlocked attached.unlocked) fun pulse flows => ?_
  refine ⟨fun operation current => ?_, .inl (attached.restored flows.watering)⟩
  simp [ZoneController.currentOffOperation, attached.fresh] at current

/-- Only a flowing pulse needs what watches it. -/
theorem bounded_of_flowsNow {controller : ZoneController} {fired : List (TimerKind × Instant)}
    {revoked : Bool} (bounded : controller.Bounded fired revoked) :
    controller.Bounded fired (revoked && controller.flowsNow) := by
  by_cases now : controller.flowsNow = true
  · rwa [now, Bool.and_true]
  · exact .of_stopped (fun pulse flows => now flows.now) bounded.decided

theorem Sound.moved (fired : List (TimerKind × Instant)) {controller : ZoneController}
    (bounded : controller.Bounded fired timed.revoked) :
    (timed.moved key controller fired).Sound key := by
  show (Function.update timed.entry.controllers key controller key).Bounded fired _
  rw [Function.update_self]
  exact bounded_of_flowsNow bounded

/-- A step of the controller itself: an event that ends the quiescing ends the pulse. -/
theorem Sound.entered {label : ControllerLabel} {sessionId : String} {controller : ZoneController}
    {shared : SharedState} (sound : timed.Sound key)
    (written : (timed.controller key).WriteSucceeds timed.entry.shared label)
    (answered : ∀ authority, label.authority = some authority → ∃ view : EntryView κ,
      authority = view.onAuthority key (timed.controller key) timed.entry.shared.store
        authority.reading)
    (acted : (timed.controller key).step timed.entry.shared label sessionId =
      some (controller, shared)) :
    controller.Bounded timed.fired
      (timed.revokedAfter key (.controller key label sessionId)) := by
  have told : ∀ authority, label.authority = some authority → authority.Sound := by
    intro authority asked
    obtain ⟨view, same⟩ := answered authority asked
    rw [same]
    exact view.onAuthority_sound key _ _ _
  by_cases quiesces : label = .quiesce
  · subst quiesces
    have lost : timed.revokedAfter key (.controller key .quiesce sessionId) = true := by
      simp [revokedAfter]
    rw [lost]
    exact (ZoneController.Bounded.mono sound fun _ => rfl).step told written (fun _ => rfl) acted
  · have stepped := ZoneController.Bounded.step sound told written
      (fun same => absurd same quiesces) acted
    cases label with
    | dispatch event =>
      by_cases settles : event.settlesPulse = true
      · simp only [ZoneController.step] at acted
        split at acted
        · obtain ⟨rfl, -⟩ := Prod.mk.inj (Option.some.inj acted)
          exact ZoneController.decideAndApply_settled .event settles
        · cases acted
      · simpa [revokedAfter, settles] using stepped
    | quiesce => exact absurd rfl quiesces
    | _ => exact stepped

theorem Sound.step (sound : timed.Sound key) (stepped : (system key).step timed label = some next)
    (succeeds : Succeeds key timed label next) : next.Sound key := by
  cases label with
  | entry label =>
    obtain ⟨entry, entered, rfl⟩ := Option.map_eq_some_iff.mp stepped
    refine bounded_of_flowsNow ?_
    cases label with
    | controller acting label sessionId =>
      obtain ⟨⟨controller, shared⟩, acted, rfl⟩ := Option.map_eq_some_iff.mp entered
      by_cases own : acting = key
      · subst own
        show (Function.update timed.entry.controllers acting controller acting).Bounded _ _
        rw [Function.update_self]
        exact sound.entered (succeeds.written label sessionId rfl)
          (fun authority => succeeds.answered label sessionId authority rfl) acted
      · show (Function.update timed.entry.controllers acting controller key).Bounded _ _
        rw [Function.update_of_ne (Ne.symm own)]
        refine ZoneController.Bounded.mono sound fun lost => ?_
        cases label <;> simp [revokedAfter, lost, own]
    | tick now =>
      obtain rfl := Option.some.inj entered
      exact sound
    | admission change =>
      obtain rfl := Option.some.inj entered
      exact sound
    | storeChanged data =>
      simp only [Entry.step, Option.ite_none_right_eq_some] at entered
      obtain ⟨-, same⟩ := entered
      obtain rfl := Option.some.inj same
      exact sound
  | fire timer =>
    simp only [system, TimedEntry.step, Option.ite_none_right_eq_some] at stepped
    obtain ⟨⟨armed, -⟩, same⟩ := stepped
    obtain rfl := Option.some.inj same
    refine Sound.moved _ ⟨fun pulse flows => ?_, sound.decided⟩
    obtain ⟨covered, planned, running, unsettled⟩ := sound.watched pulse flows
    refine ⟨?_, planned, running, unsettled⟩
    refine covered.imp id (.imp id (.imp id (.imp id ?_)))
    rintro ⟨own, stop, placed⟩
    refine ⟨own, stop, ?_⟩
    by_cases same : own = timer
    · exact .inr (.inl (same ▸ List.mem_cons_self))
    · refine placed.imp (fun held => ?_) (.imp (List.mem_cons_of_mem _) id)
      exact List.mem_filter.mpr ⟨held, by simpa using same⟩
  | deliver timer sessionId =>
    simp only [system, TimedEntry.step, Option.ite_none_right_eq_some] at stepped
    obtain ⟨⟨waiting, unlocked⟩, same⟩ := stepped
    obtain rfl := Option.some.inj same
    refine Sound.moved _ (ZoneController.decideAndApply_bounded (by simp) fun pulse flows => ?_)
    obtain ⟨running, covered⟩ :=
      sound.guarded (ZoneController.applying_of_unlocked unlocked) flows
    by_cases own : pulse.stop (timed.controller key).config = some timer
    · exact .inr ⟨running, timer, own, rfl⟩
    · refine .inl ⟨running, covered.imp id (.imp id (.imp id ?_))⟩
      rintro ⟨other, stop, placed⟩
      have differs : other ≠ timer := fun same => own (same ▸ stop)
      exact ⟨other, stop, placed.imp id fun member => (List.mem_erase_of_ne differs).mpr member⟩

/-- Every flowing pulse has a bounded stop: in a run in which every write of the controller
succeeds, OFF is under way or the stop timer of the pulse is armed or its event waits for the
lock, whenever no decision is being applied and no quiescing step is under way. -/
theorem stopBounded_of_run (reached : (system key).Run (Succeeds key) start finish)
    (attached : start.Attached key) : finish.StopBounded key finish.fired ∧
      finish.ManualClamped key := by
  have sound : finish.Sound key := reached.preserves attached.sound
    fun _ _ _ sound stepped succeeds => Sound.step sound stepped succeeds
  refine ⟨fun pulse flows resting unrevoked => ?_, ?_⟩
  · obtain ⟨running, covered⟩ := sound.guarded resting flows
    rcases covered with lost | requested | current | stop
    · rw [unrevoked] at lost
      cases lost
    · exact .inl requested
    · obtain ⟨operation, held⟩ := Option.isSome_iff_exists.mp current
      refine .inr (.inl ?_)
      simp [ZoneController.offOperationActive, held, running operation held]
    · exact .inr (.inr stop)
  · intro decision input rest applier locked session started manual fresh
    exact StateMachine.decide_manualClamped (sound.decided _ _ _ _ locked) started manual fresh

/-! ## A timer that fires while a command is persisted -/

/-- The sample zone, idle and enabled. -/
def sampleTimed : TimedEntry Unit := { entry := ⟨fun _ => sampleController, sampleShared⟩ }

/-- A manual start, ON dispatched, and its commanded anchor being written while the
confirmation timeout is due. -/
def timeoutLabels : List (TimedLabel Unit) :=
  let authority : OnAuthority := ⟨[], false, ⟨true, true, false, Bool.and_false true⟩⟩
  let started : List ControllerLabel :=
    [.dispatch (.manualStartRequested (some 60)), .act true, .act true, .act true, .act true,
      .act true, .wake, .gate authority, .serviceReturned false authority, .reenter authority]
  (started.map fun label => .entry (.controller () label "session")).append
    [.entry (.tick 130), .fire (.onConfirmTimeout, 130)]

/-- The check of `Succeeds` with the sample configuration. -/
def permits (timed : TimedEntry Unit) (label : TimedLabel Unit) (_ : TimedEntry Unit) : Bool :=
  match label with
  | .entry (.controller _ label _) =>
    decide ((timed.controller ()).WriteSucceeds timed.entry.shared label) &&
      label.authority.all fun authority => decide (authority =
        Commanded.sampleView.onAuthority () (timed.controller ()) timed.entry.shared.store
          authority.reading)
  | _ => true

theorem succeeds_of_permits (timed : TimedEntry Unit) (label : TimedLabel Unit)
    (next : TimedEntry Unit) (permitted : permits timed label next = true) :
    Succeeds () timed label next := by
  refine ⟨fun label' sessionId same => ?_, fun label' sessionId authority same asked => ?_⟩
  · subst same
    simp only [permits, Bool.and_eq_true, decide_eq_true_eq] at permitted
    exact permitted.1
  · subst same
    simp only [permits, asked, Option.all_some, Bool.and_eq_true, decide_eq_true_eq] at permitted
    exact ⟨Commanded.sampleView, permitted.2⟩

theorem stopBounded_of_run_timeout :
    ∃ finish, (system ()).runWhile permits sampleTimed timeoutLabels = some finish ∧
      finish.StopBounded () finish.fired ∧ finish.ManualClamped () := by
  obtain ⟨finish, executed⟩ := Option.isSome_iff_exists.mp
    (show ((system ()).runWhile permits sampleTimed timeoutLabels).isSome = true by decide +kernel)
  exact ⟨finish, executed, stopBounded_of_run (.of_runWhile succeeds_of_permits executed)
    ⟨rfl, rfl, nofun⟩⟩

/-- While the event of the fired timeout waits for the lock, nothing is armed. -/
theorem not_stopBounded_timeout_waiting :
    ¬ ∀ start finish : TimedEntry Unit, (system ()).Run (Succeeds ()) start finish →
      start.Attached () → finish.StopBounded () [] := by
  intro claimed
  obtain ⟨finish, executed, unarmed⟩ := (Option.any_eq_true _ _).mp
    (show ((system ()).runWhile permits sampleTimed timeoutLabels).any (fun finish =>
      (finish.controller ()).flowsNow && !(finish.controller ()).applying && !finish.revoked &&
        !(finish.controller ()).offRequested && !(finish.controller ()).offOperationActive &&
        (finish.controller ()).timers.isEmpty) = true by decide +kernel)
  simp only [Bool.and_eq_true, Bool.not_eq_true', List.isEmpty_iff] at unarmed
  obtain ⟨⟨⟨⟨⟨flows, resting⟩, unrevoked⟩, unrequested⟩, inactive⟩, none'⟩ := unarmed
  obtain ⟨pulse, flowing⟩ := ZoneController.flows_of_now flows
  have bounded := claimed sampleTimed finish (.of_runWhile succeeds_of_permits executed)
    ⟨rfl, rfl, nofun⟩ pulse flowing resting unrevoked
  simp [unrequested, inactive, none'] at bounded

end TimedEntry

end MoistureLoop
