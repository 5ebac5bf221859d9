import MoistureLoop.Controller.Shared

/-! # OFF evidence belongs to its pulse

An OFF request remembers the pulse it was made for, and an OFF operation the pulse it was
begun for; neither is compared with the session when the outcome arrives.  They agree as
long as no pulse is started while a request or an operation is open, and OFF instants are
no earlier than the dispatched ON commands as long as none is recorded before. -/

open MoistureLoop.Action
open MoistureLoop.StateMachine (isExecuteOff isStartAction)

namespace MoistureLoop

/-- The OFF instant that an event decided at `now` closes a pulse with. -/
def ControllerEvent.offAt (event : ControllerEvent) (now : Instant) : Option Instant :=
  match event with
  | .offConfirmed at' | .externalActuatorOff at' => some at'
  | .startupPersistedWatering .off => some now
  | _ => none

def offEvidenceAt (input : TransitionInput) : Option Instant := input.event.offAt input.nowUtc

theorem ControllerEvent.offAt_of_not_concernsOff {event : ControllerEvent} {now at' : Instant}
    (noOff : event.concernsOff = false) (evidence : event.offAt now = some at') : at' = now := by
  cases event with
  | startupPersistedWatering finding =>
    cases finding <;> simp_all [offAt]
  | offConfirmed | externalActuatorOff => cases noOff
  | _ => cases evidence

def OffPhase.confirmedAt : OffPhase → Option Instant
  | .settling confirmedAt | .dispatching confirmedAt => confirmedAt
  | _ => none

namespace ZoneController

def currentPulse (controller : ZoneController) : Option PulseId :=
  controller.session.map SessionContext.pulse

/-- OFF is exact: one operation runs; what is requested or running belongs to the pulse of
the session; the event of an operation is applied to the pulse it was begun for; and no
pulse is closed before its own ON was dispatched. -/
structure PulseExact (controller : ZoneController) : Prop where
  single : ∀ (operation other : Nat) (current concurrent : OffOperation),
    controller.offOperations[operation]? = some current → current.isDone = false →
    controller.offOperations[other]? = some concurrent → concurrent.isDone = false →
    operation = other
  requested : controller.offRequested = true → ∀ session, controller.session = some session →
    controller.offRequestedFor = some session.pulse
  running : ∀ (operation : Nat) (current : OffOperation),
    controller.offOperations[operation]? = some current → current.isDone = false →
    ∀ session, controller.session = some session → current.requestedFor = some session.pulse
  applied : ∀ decision input rest operation,
    controller.locked = some (.applying decision input rest (.offOperation operation)) →
    ∃ current session, controller.offOperations[operation]? = some current ∧
      input.session = some session ∧ current.requestedFor = some session.pulse
  notEarlier : ∀ decision input rest applier,
    controller.locked = some (.applying decision input rest applier) →
    ∀ offAt session dispatchedAt, offEvidenceAt input = some offAt →
    input.session = some session → (session.pulse, dispatchedAt) ∈ controller.dispatches →
    dispatchedAt ≤ offAt

inductive OffInstant (controller : ZoneController) (at' : Instant) : Prop where
  | proven : controller.offProvenAt = some at' → OffInstant controller at'
  | queued (change : ActuatorChange) : change ∈ controller.actuatorChanges →
      change.assessment.provenOff = true → change.observedAt = at' → OffInstant controller at'
  | operation (current : OffOperation) : current ∈ controller.offOperations →
      current.phase.confirmedAt = some at' → OffInstant controller at'
  | proving (change : ActuatorChange) (active : Bool) :
      controller.locked = some (.provingOff change active) → change.observedAt = at' →
      OffInstant controller at'
  | deciding (decision : Decision) (input : TransitionInput) (rest : List Action)
      (applier : Applier) : controller.locked = some (.applying decision input rest applier) →
      offEvidenceAt input = some at' → OffInstant controller at'

def OffSettled (controller : ZoneController) : Prop :=
  ∀ current ∈ controller.offOperations, current.isDone = true

/-- The inductive form: only the current operation runs, OFF is only requested for the
pulse that was decided about, and all ON commands were dispatched before every OFF
instant. -/
structure PulseSafe (now : Instant) (controller : ZoneController) : Prop where
  current : ∀ (operation : Nat) (current : OffOperation),
    controller.offOperations[operation]? = some current → current.isDone = false →
    controller.offOperation = some operation
  requested : controller.offRequested = true → ∀ pulse, controller.currentPulse = some pulse →
    controller.offRequestedFor = some pulse
  running : ∀ current ∈ controller.offOperations, current.isDone = false →
    ∀ pulse, controller.currentPulse = some pulse → current.requestedFor = some pulse
  executes : ∀ decision input rest applier,
    controller.locked = some (.applying decision input rest applier) →
    rest.any isExecuteOff = true → ∀ pulse, controller.currentPulse = some pulse →
    input.session.map SessionContext.pulse = some pulse
  applied : ∀ decision input rest operation,
    controller.locked = some (.applying decision input rest (.offOperation operation)) →
    ∃ session, input.session = some session ∧
      (controller.offOperations.map OffOperation.requestedFor)[operation]? =
        some (some session.pulse)
  dispatched : ∀ dispatch ∈ controller.dispatches, dispatch.2 ≤ now
  instants : ∀ dispatch ∈ controller.dispatches, ∀ at', controller.OffInstant at' →
    dispatch.2 ≤ at'

variable {controller next : ZoneController} {shared shared' : SharedState} {now : Instant}
  {label : ControllerLabel} {sessionId : String}

theorem PulseSafe.pulseExact (safe : PulseSafe now controller) : controller.PulseExact where
  single operation other current concurrent found running found' running' :=
    Option.some.inj ((safe.current operation current found running).symm.trans
      (safe.current other concurrent found' running'))
  requested requested session held :=
    safe.requested requested session.pulse (by simp [currentPulse, held])
  running operation current found running session held :=
    safe.running current (List.mem_of_getElem? found) running session.pulse
      (by simp [currentPulse, held])
  applied decision input rest operation locked := by
    obtain ⟨session, held, tagged⟩ := safe.applied decision input rest operation locked
    rw [List.getElem?_map] at tagged
    obtain ⟨current, found, requestedFor⟩ := Option.map_eq_some_iff.mp tagged
    exact ⟨current, session, found, held, requestedFor⟩
  notEarlier decision input rest applier locked offAt session dispatchedAt evidence _ member :=
    safe.instants _ member offAt (.deciding decision input rest applier locked evidence)

/-! ## Pieces that open nothing -/

/-- `next` has no OFF obligation that `controller` does not have: at most OFF instants from
now on are new. -/
structure Calmer (now : Instant) (controller next : ZoneController) : Prop where
  pulse : next.currentPulse = controller.currentPulse ∨ next.currentPulse = none
  requested : next.offRequested = true → controller.offRequested = true ∧
    next.offRequestedFor = controller.offRequestedFor
  offOperation : next.offOperation = controller.offOperation
  tags : next.offOperations.map OffOperation.requestedFor =
    controller.offOperations.map OffOperation.requestedFor
  running : ∀ (operation : Nat) (current : OffOperation),
    next.offOperations[operation]? = some current → current.isDone = false →
    ∃ prior, controller.offOperations[operation]? = some prior ∧ prior.isDone = false
  dispatches : next.dispatches = controller.dispatches
  instants : ∀ at', next.OffInstant at' → controller.OffInstant at' ∨ now ≤ at'
  applying : ∀ decision input rest applier,
    next.locked = some (.applying decision input rest applier) →
    ∃ before, controller.locked = some (.applying decision input before applier) ∧
      (rest.any isExecuteOff = true → before.any isExecuteOff = true)

theorem PulseSafe.calmer (safe : PulseSafe now controller) (calmer : Calmer now controller next) :
    PulseSafe now next := by
  have pulse : ∀ pulse, next.currentPulse = some pulse → controller.currentPulse = some pulse := by
    intro pulse held
    rcases calmer.pulse with same | none'
    · exact same ▸ held
    · simp [none'] at held
  refine ⟨?_, ?_, ?_, ?_, ?_, ?_, ?_⟩
  · intro operation current found running
    obtain ⟨prior, found', running'⟩ := calmer.running operation current found running
    rw [calmer.offOperation]
    exact safe.current operation prior found' running'
  · intro requested held same
    obtain ⟨was, for'⟩ := calmer.requested requested
    rw [for']
    exact safe.requested was held (pulse held same)
  · intro current member running held same
    obtain ⟨operation, found⟩ := List.mem_iff_getElem?.mp member
    obtain ⟨prior, found', running'⟩ := calmer.running operation current found running
    have tag : current.requestedFor = prior.requestedFor := by
      have tags := congrArg (fun tags => tags[operation]?) calmer.tags
      simpa [List.getElem?_map, found, found'] using tags
    rw [tag]
    exact safe.running prior (List.mem_of_getElem? found') running' held (pulse held same)
  · intro decision input rest applier locked executes held same
    obtain ⟨before, locked', executes'⟩ := calmer.applying decision input rest applier locked
    exact safe.executes decision input before applier locked' (executes' executes) held
      (pulse held same)
  · intro decision input rest operation locked
    obtain ⟨before, locked', -⟩ := calmer.applying decision input rest _ locked
    rw [calmer.tags]
    exact safe.applied decision input before operation locked'
  · rw [calmer.dispatches]
    exact safe.dispatched
  · intro dispatch member at' instant
    rw [calmer.dispatches] at member
    rcases calmer.instants at' instant with prior | later
    · exact safe.instants dispatch member at' prior
    · exact (safe.dispatched dispatch member).trans later

theorem OffInstant.of_fields {at' : Instant} (instant : next.OffInstant at')
    (offProvenAt : next.offProvenAt = controller.offProvenAt)
    (offOperations : next.offOperations = controller.offOperations)
    (changes : next.actuatorChanges = controller.actuatorChanges)
    (locked : next.locked = controller.locked ∨ next.locked = none ∨
      ∃ holder, next.locked = some holder ∧ holder.commands = true) :
    controller.OffInstant at' := by
  cases instant with
  | proven held => exact .proven (offProvenAt ▸ held)
  | queued change member provenOff same => exact .queued change (changes ▸ member) provenOff same
  | operation current member confirmed =>
    exact .operation current (offOperations ▸ member) confirmed
  | proving change active held same =>
    rcases locked with kept | free | ⟨holder, taken, commands⟩
    · exact .proving change active (kept ▸ held) same
    · simp [free] at held
    · obtain rfl := Option.some.inj (taken.symm.trans held)
      cases commands
  | deciding decision input rest applier held evidence =>
    rcases locked with kept | free | ⟨holder, taken, commands⟩
    · exact .deciding decision input rest applier (kept ▸ held) evidence
    · simp [free] at held
    · obtain rfl := Option.some.inj (taken.symm.trans held)
      cases commands

/-- A change that keeps requests, operations and instants, or gives the lock to the
session task. -/
theorem Calmer.of_fields
    (pulse : next.currentPulse = controller.currentPulse)
    (offRequested : next.offRequested = controller.offRequested)
    (offRequestedFor : next.offRequestedFor = controller.offRequestedFor)
    (offOperation : next.offOperation = controller.offOperation)
    (offOperations : next.offOperations = controller.offOperations)
    (offProvenAt : next.offProvenAt = controller.offProvenAt)
    (dispatches : next.dispatches = controller.dispatches)
    (changes : next.actuatorChanges = controller.actuatorChanges)
    (locked : next.locked = controller.locked ∨ next.locked = none ∨
      ∃ holder, next.locked = some holder ∧ holder.commands = true) :
    Calmer now controller next where
  pulse := .inl pulse
  requested requested := ⟨offRequested ▸ requested, offRequestedFor⟩
  offOperation := offOperation
  tags := by rw [offOperations]
  running operation current found running := ⟨current, offOperations ▸ found, running⟩
  dispatches := dispatches
  instants _ instant := .inl (instant.of_fields offProvenAt offOperations changes locked)
  applying decision input rest applier held := by
    rcases locked with kept | free | ⟨holder, taken, commands⟩
    · exact ⟨rest, kept ▸ held, id⟩
    · simp [free] at held
    · obtain rfl := Option.some.inj (taken.symm.trans held)
      cases commands

theorem Quiet.calmer (quiet : Quiet controller next) : Calmer now controller next :=
  .of_fields (by simp [currentPulse, quiet.session]) quiet.offRequested quiet.offRequestedFor
    quiet.offOperation quiet.offOperations quiet.offProvenAt quiet.dispatches
    quiet.actuatorChanges (.inl quiet.locked)

/-- Moving a running operation to a phase whose instant is known or recent. -/
theorem setOffPhase_calmer {operation : Nat} {before phase : OffPhase}
    (found : controller.offOperations[operation]?.map OffOperation.phase = some before)
    (done : ∀ result, before = .done result → ∃ result', phase = .done result')
    (instants : ∀ at', phase.confirmedAt = some at' → controller.OffInstant at' ∨ now ≤ at') :
    Calmer now controller (controller.setOffPhase operation phase) := by
  obtain ⟨prior, held, rfl⟩ := Option.map_eq_some_iff.mp found
  have lookup : ∀ i, (controller.setOffPhase operation phase).offOperations[i]? =
      (controller.offOperations[i]?).map fun current =>
        if operation = i then { current with phase := phase } else current := by
    intro i
    simp only [setOffPhase, List.getElem?_modify]
    cases controller.offOperations[i]? with
    | none => rfl
    | some current => by_cases same : operation = i <;> simp [same]
  refine ⟨.inl rfl, fun requested => ⟨requested, rfl⟩, rfl, ?_, ?_, rfl, ?_, ?_⟩
  · refine List.ext_getElem? fun i => ?_
    rw [List.getElem?_map, List.getElem?_map, lookup]
    cases controller.offOperations[i]? with
    | none => rfl
    | some current => by_cases same : operation = i <;> simp [same]
  · intro i current found' running
    rw [lookup] at found'
    obtain ⟨earlier, was, rfl⟩ := Option.map_eq_some_iff.mp found'
    refine ⟨earlier, was, ?_⟩
    by_cases same : operation = i
    · subst same
      obtain rfl := Option.some.inj (held.symm.trans was)
      unfold OffOperation.isDone
      split
      · rename_i result finished
        obtain ⟨result', same⟩ := done result finished
        simp [OffOperation.isDone, same] at running
      · rfl
    · simpa [same] using running
  · intro at' instant
    cases instant with
    | operation current member confirmed =>
      obtain ⟨i, found'⟩ := List.mem_iff_getElem?.mp member
      rw [lookup] at found'
      obtain ⟨earlier, was, rfl⟩ := Option.map_eq_some_iff.mp found'
      by_cases same : operation = i
      · simp only [same, if_true] at confirmed
        exact instants at' confirmed
      · simp only [same, if_false] at confirmed
        exact .inl (.operation earlier (List.mem_of_getElem? was) confirmed)
    | proven held => exact .inl (.proven held)
    | queued change member provenOff same => exact .inl (.queued change member provenOff same)
    | proving change active held same => exact .inl (.proving change active held same)
    | deciding decision input rest applier held evidence =>
      exact .inl (.deciding decision input rest applier held evidence)
  · exact fun decision input rest applier locked => ⟨rest, locked, id⟩

theorem Calmer.trans {second third : ZoneController} (left : Calmer now controller second)
    (right : Calmer now second third) : Calmer now controller third where
  pulse := by
    rcases right.pulse with same | none'
    · exact same ▸ left.pulse
    · exact .inr none'
  requested requested := by
    obtain ⟨was, for'⟩ := right.requested requested
    obtain ⟨earlier, for''⟩ := left.requested was
    exact ⟨earlier, for'.trans for''⟩
  offOperation := right.offOperation.trans left.offOperation
  tags := right.tags.trans left.tags
  running operation current found running := by
    obtain ⟨prior, found', running'⟩ := right.running operation current found running
    exact left.running operation prior found' running'
  dispatches := right.dispatches.trans left.dispatches
  instants at' instant := by
    rcases right.instants at' instant with prior | later
    · exact left.instants at' prior
    · exact .inr later
  applying decision input rest applier locked := by
    obtain ⟨before, locked', executes'⟩ := right.applying decision input rest applier locked
    obtain ⟨earlier, locked'', executes''⟩ := left.applying decision input before applier locked'
    exact ⟨earlier, locked'', executes'' ∘ executes'⟩

theorem released_calmer (controller : ZoneController) :
    Calmer now controller { controller with locked := none } :=
  .of_fields rfl rfl rfl rfl rfl rfl rfl rfl (.inr (.inl rfl))

/-- The end of an application opens nothing: an operation whose event was handled is done,
or has its exception to recover from. -/
theorem afterApply_calmer (controller : ZoneController) (applier : Applier) (raised : Bool) :
    Calmer now controller (controller.afterApply applier raised) := by
  cases applier with
  | offOperation operation =>
    simp only [afterApply]
    split
    · exact released_calmer controller
    · rename_i current found
      have settled : Calmer now { controller with locked := none }
          ({ controller with locked := none }.setOffPhase operation
            (current.phase.afterDispatch raised)) := by
        refine setOffPhase_calmer (show _ = some current.phase by simp [found]) ?_ ?_
        · exact fun result done => ⟨result, by rw [done]; rfl⟩
        · intro at' confirmed
          refine .inl (.operation current (List.mem_of_getElem? found) ?_)
          revert confirmed
          cases current.phase <;> cases raised <;> simp [OffPhase.afterDispatch, OffPhase.confirmedAt]
      have ended := (released_calmer controller).trans settled
      split
      · exact ended.trans (.of_fields rfl rfl rfl rfl rfl rfl rfl rfl (.inl rfl))
      · exact ended
  | confirmation =>
    cases raised with
    | true => exact .of_fields rfl rfl rfl rfl rfl rfl rfl rfl (.inr (.inl rfl))
    | false =>
      exact .of_fields rfl rfl rfl rfl rfl rfl rfl rfl (.inr (.inr ⟨.rechecking true, rfl, rfl⟩))
  | _ => exact .of_fields rfl rfl rfl rfl rfl rfl rfl rfl (.inr (.inl rfl))

/-! ## Deciding -/

/-- What is known when a decision starts a pulse: no OFF is requested and none runs. -/
def StartsClean (controller : ZoneController) : Prop :=
  controller.offRequested = false ∧ controller.OffSettled

/-- A decision keeps the controller in its pulse or leaves the pulse, unless it starts one. -/
theorem SessionEffect_pulse {input : TransitionInput} {decision : Decision}
    {session' : Option SessionContext} (effect : StateMachine.SessionEffect input decision)
    (adopted : session' = if decision.clearSession then none
      else decision.session.or input.session) :
    (∀ pulse, session'.map SessionContext.pulse = some pulse →
      input.session.map SessionContext.pulse = some pulse) ∨
    (StateMachine.mayStart input.event = true ∧ turnOn ∈ decision.actions ∧
      decision.actions.any isExecuteOff = false) := by
  cases effect with
  | starts _ _ _ _ _ allowed _ on starting =>
    refine .inr ⟨allowed.1, on, List.any_eq_false.mpr fun action member => ?_⟩
    have starts := starting action member
    cases action <;> simp_all [isExecuteOff, isStartAction]
  | clears cleared => exact .inl (by simp [adopted, cleared])
  | updates before after held decided kept pulse =>
    exact .inl (by simp [adopted, decided, kept, held, pulse])
  | keeps decided kept => exact .inl (by simp [adopted, decided, kept])

theorem PulseSafe.decideAndApply (safe : PulseSafe now controller) {event : ControllerEvent} {applier : Applier}
    (evidence : ∀ at', event.offAt shared.now = some at' →
      ∀ dispatch ∈ controller.dispatches, dispatch.2 ≤ at')
    (outcome : ∀ operation, applier = .offOperation operation →
      (event = .offNotConfirmed ∨ ∃ at', event = .offConfirmed at') ∧
      ∃ current, controller.offOperations[operation]? = some current ∧ current.isDone = false)
    (starts : turnOn ∈ (controller.decideAndApply shared event applier sessionId).ahead →
      StateMachine.mayStart event = true → controller.StartsClean) :
    PulseSafe now (controller.decideAndApply shared event applier sessionId) := by
  have rolled := controller.rollDaily_sameDecided shared.calendar shared.now
  rcases controller.decideAndApply_cases shared event applier sessionId with
    ⟨raised, applied⟩ | ⟨decision, effect, ⟨decided, acts⟩, applied⟩
  · -- Nothing was adopted.
    rw [applied]
    exact safe.calmer ((controller.rollDaily_quiet _ _).calmer.trans
      (afterApply_calmer _ applier raised))
  · obtain ⟨frame, session', -⟩ := controller.applyPrelude_rolled shared decision
      ((controller.rollDaily shared.calendar shared.now).buildInput shared event sessionId)
    rw [applied] at starts ⊢
    have inputSession : ((controller.rollDaily shared.calendar shared.now).buildInput shared event
      sessionId).session = controller.session := rolled.session
    generalize same : (controller.rollDaily shared.calendar shared.now).buildInput shared event
      sessionId = input at *
    have inputEvent : input.event = event := by rw [← same]; rfl
    have inputNow : input.nowUtc = shared.now := by rw [← same]; rfl
    generalize (controller.rollDaily shared.calendar shared.now).applyPrelude shared decision input
      = adopted at frame session' starts ⊢
    have pulse := SessionEffect_pulse effect (session'.trans (by rw [inputSession]))
    rw [inputSession, inputEvent] at pulse
    -- A decision that starts a pulse finds no operation running.
    have clean : StateMachine.mayStart event = true ∧ turnOn ∈ decision.actions ∧
        decision.actions.any isExecuteOff = false → controller.StartsClean :=
      fun start => starts start.2.1 start.1
    refine ⟨?_, ?_, ?_, ?_, ?_, ?_, ?_⟩
    · -- The current operation is the latest of those that run.
      intro operation current found running
      exact frame.offOperation.trans (safe.current operation current (frame.offOperations ▸ found)
        running)
    · -- What is requested is for the pulse, which stays or is a clean start.
      intro requested held same
      rcases pulse with within | start
      · exact frame.offRequestedFor.trans (safe.requested (frame.offRequested ▸ requested) held
          (within held same))
      · have requested' : controller.offRequested = true := frame.offRequested ▸ requested
        simp [(clean start).1] at requested'
    · -- So is every operation that runs.
      intro current member running held same
      have member' : current ∈ controller.offOperations := frame.offOperations ▸ member
      rcases pulse with within | start
      · exact safe.running current member' running held (within held same)
      · simp [(clean start).2 current member'] at running
    · -- The OFF that is ahead is for the pulse it was decided in.
      intro decision' input' rest applier' locked executes held same
      obtain ⟨rfl, rfl, rfl, rfl⟩ := LockHolder.applying.inj (Option.some.inj locked)
      rcases pulse with within | start
      · rw [inputSession]
        exact within held same
      · simp [start.2.2] at executes
    · -- An outcome is applied for the pulse of its operation.
      intro decision' input' rest operation locked
      obtain ⟨rfl, rfl, rfl, rfl⟩ := LockHolder.applying.inj (Option.some.inj locked)
      obtain ⟨event', current, found, running⟩ := outcome operation rfl
      obtain ⟨session, held⟩ := StateMachine.decide_session_of_off decided acts
        (by rw [inputEvent]; exact event')
      refine ⟨session, held, ?_⟩
      have tagged := safe.running current (List.mem_of_getElem? found) running session.pulse
        (by simp [currentPulse, ← inputSession, held])
      have found' : adopted.offOperations[operation]? = some current :=
        frame.offOperations ▸ found
      simp [List.getElem?_map, found', tagged]
    · exact fun dispatch member => safe.dispatched dispatch (frame.dispatches ▸ member)
    · -- No OFF instant is earlier than a command.
      intro dispatch member at' instant
      have member' : dispatch ∈ controller.dispatches := frame.dispatches ▸ member
      cases instant with
      | proven held =>
        exact safe.instants dispatch member' at' (.proven (frame.offProvenAt ▸ held))
      | queued change queued provenOff same =>
        exact safe.instants dispatch member' at'
          (.queued change (frame.actuatorChanges ▸ queued) provenOff same)
      | operation current operates confirmed =>
        exact safe.instants dispatch member' at'
          (.operation current (frame.offOperations ▸ operates) confirmed)
      | proving change active held same => cases held
      | deciding decision' input' rest applier' locked evident =>
        obtain ⟨rfl, rfl, rfl, rfl⟩ := LockHolder.applying.inj (Option.some.inj locked)
        exact evidence at' (by rw [← inputEvent, ← inputNow]; exact evident) dispatch member'

/-! ## OFF operations -/

/-- A new operation runs alone: the one it replaces could not be joined. -/
theorem PulseSafe.beginOffOperation (safe : PulseSafe now controller)
    {requestedFor : Option PulseId}
    (tagged : ∀ pulse, controller.currentPulse = some pulse → requestedFor = some pulse) :
    PulseSafe now (controller.beginOffOperation requestedFor) := by
  unfold ZoneController.beginOffOperation
  split
  · exact safe
  · rename_i alone
    -- A fresh operation begins only when the current one cannot be joined.
    have settled : controller.OffSettled := by
      intro current member
      by_contra running
      obtain ⟨operation, found⟩ := List.mem_iff_getElem?.mp member
      have refers := safe.current operation current found (by simpa using running)
      refine alone ?_
      simp only [currentOffOperation, refers, Option.bind_some, found, Option.any_some]
      unfold OffOperation.joinable
      split
      · rename_i done
        simp [OffOperation.isDone, done] at running
      · rfl
    -- So the new one is the only one that runs.
    have begun : ∀ (operation : Nat) (current : OffOperation),
        (controller.newOffOperation requestedFor).offOperations[operation]? = some current →
        current.isDone = false → operation = controller.offOperations.length ∧
          current.requestedFor = requestedFor := by
      intro operation current found running
      simp only [newOffOperation] at found
      rcases Nat.lt_trichotomy operation controller.offOperations.length with less | rfl | more
      · rw [List.getElem?_append_left less] at found
        simp [settled current (List.mem_of_getElem? found)] at running
      · obtain rfl := Option.some.inj (by simpa using found)
        exact ⟨rfl, rfl⟩
      · rw [List.getElem?_eq_none (by simp; omega)] at found
        cases found
    refine ⟨?_, safe.requested, ?_, safe.executes, ?_, safe.dispatched, ?_⟩
    · intro operation current found running
      rw [(begun operation current found running).1]
      rfl
    · intro current member running pulse held
      obtain ⟨operation, found⟩ := List.mem_iff_getElem?.mp member
      exact (begun operation current found running).2.trans (tagged pulse held)
    · intro decision input rest operation locked
      obtain ⟨session, held, tag⟩ := safe.applied decision input rest operation locked
      refine ⟨session, held, ?_⟩
      have bound : operation < (controller.offOperations.map OffOperation.requestedFor).length :=
        (List.getElem?_eq_some_iff.mp tag).1
      simp only [newOffOperation, List.map_append]
      rw [List.getElem?_append_left bound]
      exact tag
    · -- It has no OFF instant yet.
      intro dispatch member at' instant
      cases instant with
      | proven held => exact safe.instants dispatch member at' (.proven held)
      | queued change queued provenOff same =>
        exact safe.instants dispatch member at' (.queued change queued provenOff same)
      | operation current operates confirmed =>
        simp only [newOffOperation, List.mem_append, List.mem_singleton] at operates
        rcases operates with earlier | rfl
        · exact safe.instants dispatch member at' (.operation current earlier confirmed)
        · cases confirmed
      | proving change active held same =>
        exact safe.instants dispatch member at' (.proving change active held same)
      | deciding decision input rest applier locked evident =>
        exact safe.instants dispatch member at'
          (.deciding decision input rest applier locked evident)

theorem PulseSafe.ensureOffOperation (safe : PulseSafe now controller)
    {requestedFor : Option PulseId}
    (tagged : ∀ pulse, controller.currentPulse = some pulse → requestedFor = some pulse)
    (compensating : Bool) :
    PulseSafe now (controller.ensureOffOperation requestedFor compensating) := by
  have answered : Calmer now controller { controller with offRequested := false } :=
    ⟨.inl rfl, by simp, rfl, rfl, fun _ current found running => ⟨current, found, running⟩, rfl,
      fun _ instant => .inl (instant.of_fields rfl rfl rfl (.inl rfl)),
      fun _ _ rest _ locked => ⟨rest, locked, id⟩⟩
  have begun := @PulseSafe.beginOffOperation _ _ (safe.calmer answered) requestedFor tagged
  exact begun.calmer (.of_fields rfl rfl rfl rfl rfl rfl rfl rfl (.inl rfl))

theorem PulseSafe.compensate (safe : PulseSafe now controller) (shared : SharedState)
    (configurationChanged serviceFailed : Bool) :
    PulseSafe now (controller.compensate shared configurationChanged serviceFailed) := by
  have spec := controller.commitOnCompensationNow_spec shared configurationChanged serviceFailed
  unfold ZoneController.compensate
  generalize controller.commitOnCompensationNow shared configurationChanged serviceFailed
    = result at spec ⊢
  obtain ⟨committed, raised⟩ := result
  obtain ⟨frame, absent, present⟩ := spec
  simp only at frame absent present ⊢
  have pulse : committed.currentPulse = controller.currentPulse := by
    cases prior : controller.session with
    | none => simp [currentPulse, prior, (absent prior).1]
    | some before =>
      obtain ⟨after, same, pulse, -⟩ := present before prior
      simp [currentPulse, prior, same, pulse]
  have kept : PulseSafe now committed := safe.calmer (.of_fields pulse frame.offRequested
    frame.offRequestedFor frame.offOperation frame.offOperations frame.offProvenAt
    frame.dispatches frame.actuatorChanges (.inl frame.locked))
  split
  · exact kept.calmer (.of_fields rfl rfl rfl rfl rfl rfl rfl rfl (.inl rfl))
  · exact kept.ensureOffOperation (fun pulse held => held) true

theorem PulseSafe.recordPossibleCommand (safe : PulseSafe now controller) (marker : InFlightOn) :
    PulseSafe now (controller.recordPossibleCommand marker) := by
  refine safe.calmer (.of_fields ?_ rfl rfl rfl rfl rfl rfl rfl (.inl rfl))
  cases held : controller.session with
  | none => simp [currentPulse, ZoneController.recordPossibleCommand, held]
  | some session =>
    simp only [currentPulse, ZoneController.recordPossibleCommand, held, Option.map_some]
    split <;> rfl

/-- A failed write requests OFF for the pulse the controller is in. -/
theorem PulseSafe.handlePersistFailure (safe : PulseSafe now controller) :
    PulseSafe now controller.handlePersistFailure := by
  have pulse : (controller.session.map fun session => { session with
      pendingTerminationReason :=
        session.pendingTerminationReason.or (some .actuatorFault) }).map SessionContext.pulse =
      controller.currentPulse := by
    cases held : controller.session <;> simp [currentPulse, held, SessionContext.pulse]
  unfold ZoneController.handlePersistFailure
  simp only
  split
  · exact safe.calmer (.of_fields pulse rfl rfl rfl rfl rfl rfl rfl (.inl rfl))
  · refine ⟨safe.current, fun _ held same => same, fun current member running held same => ?_,
      fun decision input rest applier locked executes held same => ?_, safe.applied,
      safe.dispatched, fun dispatch member at' instant => ?_⟩
    · exact safe.running current member running held (pulse.symm.trans same)
    · exact safe.executes decision input rest applier locked executes held (pulse.symm.trans same)
    · exact safe.instants dispatch member at' (instant.of_fields rfl rfl rfl (.inl rfl))

/-! ## Evidence and commands -/

theorem observed_calmer (controller : ZoneController) (now : Instant)
    (assessment : ActuatorAssessment) (terminalOn ownContext : Bool) :
    Calmer now controller (controller.onActuatorEvent now assessment terminalOn ownContext) := by
  refine ⟨.inl rfl, fun requested => ⟨requested, rfl⟩, rfl, rfl,
    fun _ current found running => ⟨current, found, running⟩, rfl, fun at' instant => ?_,
    fun _ _ rest _ locked => ⟨rest, locked, id⟩⟩
  cases instant with
  | proven held =>
    simp only [onActuatorEvent] at held
    split at held
    · exact .inr (Option.some.inj held).le
    · exact .inl (.proven held)
  | queued change member provenOff same =>
    simp only [onActuatorEvent, List.mem_append, List.mem_singleton] at member
    rcases member with earlier | rfl
    · exact .inl (.queued change earlier provenOff same)
    · exact .inr same.le
  | operation current operates confirmed => exact .inl (.operation current operates confirmed)
  | proving change active held same => exact .inl (.proving change active held same)
  | deciding decision input rest applier locked evident =>
    exact .inl (.deciding decision input rest applier locked evident)

/-- A change leaves the queue, for good or to be proved OFF. -/
theorem taken_calmer {change : ActuatorChange} {rest : List ActuatorChange}
    (queued : controller.actuatorChanges = change :: rest) :
    Calmer now controller { controller with actuatorChanges := rest } := by
  refine ⟨.inl rfl, fun requested => ⟨requested, rfl⟩, rfl, rfl,
    fun _ current found running => ⟨current, found, running⟩, rfl, fun at' instant => .inl ?_,
    fun _ _ rest _ locked => ⟨rest, locked, id⟩⟩
  cases instant with
  | proven held => exact .proven held
  | queued change' member provenOff same =>
    exact .queued change' (queued ▸ List.mem_cons_of_mem change member) provenOff same
  | operation current operates confirmed => exact .operation current operates confirmed
  | proving change' active held same => exact .proving change' active held same
  | deciding decision input rest applier locked evident =>
    exact .deciding decision input rest applier locked evident

theorem proving_calmer {change : ActuatorChange} {rest : List ActuatorChange} (active : Bool)
    (queued : controller.actuatorChanges = change :: rest)
    (provenOff : change.assessment.provenOff = true) :
    Calmer now controller { controller with
      actuatorChanges := rest
      locked := some (.provingOff change active) } := by
  refine ⟨.inl rfl, fun requested => ⟨requested, rfl⟩, rfl, rfl,
    fun _ current found running => ⟨current, found, running⟩, rfl, fun at' instant => .inl ?_,
    by simp⟩
  cases instant with
  | proven held => exact .proven held
  | queued change' member provenOff' same =>
    exact .queued change' (queued ▸ List.mem_cons_of_mem change member) provenOff' same
  | operation current operates confirmed => exact .operation current operates confirmed
  | proving change' active' held same =>
    obtain ⟨rfl, -⟩ := LockHolder.provingOff.inj (Option.some.inj held)
    exact .queued change (queued ▸ List.mem_cons_self) provenOff same
  | deciding decision input rest applier locked evident => cases locked

/-- The instant an attempt settles on is that of the observed state, or recent. -/
theorem offInstant_recent {at' : Instant} (same : some (controller.offInstant now) = some at') :
    controller.OffInstant at' ∨ now ≤ at' := by
  obtain rfl := Option.some.inj same
  cases held : controller.offProvenAt with
  | none => exact .inr (by simp [offInstant, held])
  | some at' => exact .inl (.proven (by simp [offInstant, held]))

theorem offServiceReturned_calmer {operation left : Nat} (reading : ActuatorAssessment)
    (found : controller.offOperations[operation]?.map OffOperation.phase =
      some (.commanding left)) :
    Calmer now controller (controller.offServiceReturned now operation left reading) := by
  have read : Calmer now controller { controller with assessment := reading } :=
    .of_fields rfl rfl rfl rfl rfl rfl rfl rfl (.inl rfl)
  unfold offServiceReturned
  simp only
  split
  · refine read.trans (setOffPhase_calmer found (by simp) fun at' confirmed => ?_)
    exact offInstant_recent confirmed
  · exact read.trans (setOffPhase_calmer found (by simp) (by simp [OffPhase.confirmedAt]))

theorem offProofEnded_calmer {operation left : Nat}
    (found : controller.offOperations[operation]?.map OffOperation.phase =
      some (.awaitingProof left)) :
    Calmer now controller (controller.offProofEnded now operation left) := by
  unfold offProofEnded
  split
  · exact setOffPhase_calmer found (by simp) fun at' confirmed => offInstant_recent confirmed
  · refine setOffPhase_calmer found (by simp) ?_
    cases left <;> simp [OffPhase.confirmedAt]

/-- What is known when ON is dispatched: no OFF instant has been recorded for the pulse, and
no observed OFF waits to be handled. -/
def DispatchesClean (controller : ZoneController) : Prop :=
  controller.offProvenAt = none ∧
    ∀ change ∈ controller.actuatorChanges, change.assessment.provenOff = false

/-- The gate refuses while an OFF operation is active. -/
theorem offOperationActive_of_authorized {authority : OnAuthority} {session : SessionContext}
    (held : controller.session = some session)
    (authorized : (controller.evaluateOnAuthority shared session.sessionId true
      authority).authorized = true) : controller.offOperationActive = false := by
  have guards : controller.finalOnGuardFailures shared.now session.sessionId
      (shared.currentLocalDayRuntimeS (shared.store.zoneHistories.get? controller.zoneHistoryId))
      true = [] := by
    simp only [OnAuthorization.authorized, evaluateOnAuthority, List.isEmpty_iff,
      List.append_eq_nil_iff, ite_eq_left_iff, List.cons_ne_nil, imp_false, not_not] at authorized
    exact authorized.1.2
  simp only [finalOnGuardFailures, held, ne_eq, not_true_eq_false, if_false,
    List.append_eq_nil_iff] at guards
  have active := guards.2.1.1.1.2
  simpa using active

theorem PulseSafe.dispatchOn (safe : PulseSafe now controller) {authority : OnAuthority}
    {session : SessionContext} (unlocked : controller.locked = none)
    (held : controller.session = some session) (clean : controller.DispatchesClean)
    (authorized : (controller.evaluateOnAuthority shared session.sessionId true
      authority).authorized = true) :
    PulseSafe now (controller.dispatchOn now session authority.reading) := by
  have inactive := offOperationActive_of_authorized held authorized
  -- No OFF instant is left that the new ON could be later than.
  have none' : ∀ at', ¬ (controller.dispatchOn now session authority.reading).OffInstant at' := by
    intro at' instant
    cases instant with
    | proven proven => simp [ZoneController.dispatchOn, clean.1] at proven
    | queued change member provenOff same => simp [clean.2 change member] at provenOff
    | operation current operates confirmed =>
      obtain ⟨operation, found⟩ := List.mem_iff_getElem?.mp operates
      have running : current.isDone = false := by
        unfold OffOperation.isDone
        split
        · rename_i done
          simp [done, OffPhase.confirmedAt] at confirmed
        · rfl
      have refers := safe.current operation current found running
      have found' : controller.offOperations[operation]? = some current := found
      simp [offOperationActive, currentOffOperation, refers, found', running] at inactive
    | proving change active locked same => simp [ZoneController.dispatchOn, unlocked] at locked
    | deciding decision input rest applier locked evident =>
      simp [ZoneController.dispatchOn, unlocked] at locked
  refine ⟨safe.current, safe.requested, safe.running, safe.executes, safe.applied, ?_,
    fun dispatch member at' instant => absurd instant (none' at')⟩
  intro dispatch member
  rcases List.mem_cons.mp member with rfl | earlier
  · exact le_refl now
  · exact safe.dispatched dispatch earlier

/-! ## Steps -/

theorem closed_pulseSafe :
    Closed (PulseSafe now) (fun shared => shared.now = now) StartsClean DispatchesClean
      fun _ _ => True where
  stable clean _ requested operations :=
    ⟨requested.trans clean.1, fun current member => clean.2 current (operations ▸ member)⟩
  quiet safe quiet := safe.calmer quiet.calmer
  released {controller} safe _ := safe.calmer (released_calmer controller)
  took safe _ commands :=
    safe.calmer (.of_fields rfl rfl rfl rfl rfl rfl rfl rfl (.inr (.inr ⟨_, rfl, commands⟩)))
  observed assessment terminalOn ownContext safe same :=
    safe.calmer (same ▸ observed_calmer _ _ assessment terminalOn ownContext)
  taken safe queued := safe.calmer (taken_calmer queued)
  proving active safe queued _ provenOff := safe.calmer (proving_calmer active queued provenOff)
  -- The OFF that a change has proven is dated by its queue.
  proven {controller shared change active} sessionId safe locked same := by
    refine (safe.calmer (released_calmer controller)).decideAndApply ?_ (by simp) (by rintro - ⟨⟩)
    intro at' evident dispatch member
    obtain rfl := Option.some.inj evident
    exact safe.instants dispatch member _ (.proving change active locked rfl)
  offReturned reading safe same found :=
    safe.calmer (same ▸ offServiceReturned_calmer reading found)
  offEnded safe same found := safe.calmer (same ▸ offProofEnded_calmer found)
  offAborted safe found runs :=
    safe.calmer (setOffPhase_calmer found (fun result done => absurd done (runs result))
      (by simp [OffPhase.confirmedAt]))
  -- An OFF operation reports the instant it has, or that there is none.
  offSettled {controller shared operation confirmedAt} sessionId safe unlocked same found := by
    obtain ⟨current, held, settling⟩ := Option.map_eq_some_iff.mp found
    have known : ∀ at', confirmedAt = some at' → controller.OffInstant at' := fun at' same =>
      .operation current (List.mem_of_getElem? held) (by rw [settling]; exact same)
    have dispatching : PulseSafe now
        (controller.setOffPhase operation (.dispatching confirmedAt)) :=
      safe.calmer (setOffPhase_calmer found (by simp) fun at' same => .inl (known at' same))
    have running : (controller.setOffPhase operation (.dispatching confirmedAt)).offOperations[
        operation]? = some { current with phase := .dispatching confirmedAt } := by
      simp [setOffPhase, held]
    cases confirmedAt with
    | none =>
      refine dispatching.decideAndApply (by rintro at' ⟨⟩) ?_ (by rintro - ⟨⟩)
      rintro other ⟨⟩
      exact ⟨.inl rfl, _, running, rfl⟩
    | some confirmedAt =>
      refine dispatching.decideAndApply ?_ ?_ (by rintro - ⟨⟩)
      · intro at' evident dispatch member
        exact safe.instants dispatch member at' (known at' evident)
      · rintro other ⟨⟩
        exact ⟨.inr ⟨confirmedAt, rfl⟩, _, running, rfl⟩
  offRecovered {controller shared operation} sessionId safe unlocked same found := by
    obtain ⟨current, held, recovering⟩ := Option.map_eq_some_iff.mp found
    refine safe.decideAndApply (by rintro at' ⟨⟩) ?_ (by rintro - ⟨⟩)
    rintro other ⟨⟩
    exact ⟨.inl rfl, current, held, by simp [OffOperation.isDone, recovering]⟩
  -- Any other event carries no OFF evidence of its own.
  decided {controller shared event applier} sessionId safe unlocked same noOff _ _ notOff starts := by
    refine safe.decideAndApply ?_ (fun operation same => absurd same (notOff operation))
      fun starting _ => starts starting
    intro at' evident dispatch member
    rw [ControllerEvent.offAt_of_not_concernsOff noOff evident, same]
    exact safe.dispatched dispatch member
  dispatched authority safe unlocked same held clean authorized :=
    same ▸ (same ▸ safe).dispatchOn unlocked held clean authorized
  compensated shared configurationChanged serviceFailed safe _ :=
    safe.compensate shared configurationChanged serviceFailed
  ensured safe requested := safe.ensureOffOperation (safe.requested requested) false
  begun safe := safe.beginOffOperation fun _ held => held
  recorded marker safe := safe.recordPossibleCommand marker
  failed safe _ := safe.handlePersistFailure

theorem goesOn_calmer {decision : Decision} {input : TransitionInput} {action : Action}
    {rest : List Action} {applier : Applier}
    (locked : controller.locked = some (.applying decision input (action :: rest) applier)) :
    Calmer now controller
      { controller with locked := some (.applying decision input rest applier) } := by
  refine ⟨.inl rfl, fun requested => ⟨requested, rfl⟩, rfl, rfl,
    fun _ current found running => ⟨current, found, running⟩, rfl, fun at' instant => .inl ?_, ?_⟩
  · cases instant with
    | proven held => exact .proven held
    | queued change member provenOff same => exact .queued change member provenOff same
    | operation current operates confirmed => exact .operation current operates confirmed
    | proving change active held same => cases held
    | deciding decision' input' rest' applier' held evident =>
      cases held
      exact .deciding decision input _ applier locked evident
  · rintro decision' input' rest' applier' ⟨⟩
    exact ⟨_, locked, fun executes => by simp [executes]⟩

theorem PulseSafe.turnOnRequested (safe : PulseSafe now controller)
    (settled : controller.OffSettled) : PulseSafe now controller.turnOnRequested := by
  refine ⟨fun operation current found running => ?_, safe.requested, safe.running, safe.executes,
    safe.applied, safe.dispatched, fun dispatch member at' instant => ?_⟩
  · have member : current ∈ controller.offOperations := List.mem_of_getElem? found
    simp [settled current member] at running
  · cases instant with
    | proven held => cases held
    | queued change queued provenOff same =>
      exact safe.instants dispatch member at' (.queued change queued provenOff same)
    | operation current operates confirmed =>
      exact safe.instants dispatch member at' (.operation current operates confirmed)
    | proving change active held same =>
      exact safe.instants dispatch member at' (.proving change active held same)
    | deciding decision input rest applier held evident =>
      exact safe.instants dispatch member at' (.deciding decision input rest applier held evident)

theorem PulseSafe.offRequested (safe : PulseSafe now controller)
    {requestedFor : Option PulseId}
    (tagged : ∀ pulse, controller.currentPulse = some pulse → requestedFor = some pulse) :
    PulseSafe now { controller with offRequested := true, offRequestedFor := requestedFor } :=
  ⟨safe.current, fun _ => tagged, safe.running, safe.executes, safe.applied, safe.dispatched,
    fun dispatch member at' instant =>
      safe.instants dispatch member at' (instant.of_fields rfl rfl rfl (.inl rfl))⟩

/-- The actions of an application, when the ON of a pulse finds no operation running. -/
theorem PulseSafe.act (safe : PulseSafe now controller) {saved : Bool} {decision : Decision}
    {input : TransitionInput} {rest : List Action} {applier : Applier}
    (locked : controller.locked = some (.applying decision input rest applier))
    (turnsOn : ∀ tail, rest = turnOn :: tail → controller.OffSettled) :
    PulseSafe now (controller.act shared saved decision input applier rest).1 := by
  have ended : ∀ {last : ZoneController} (raised : Bool), PulseSafe now last →
      PulseSafe now (last.afterApply applier raised) := fun raised safe =>
    safe.calmer (afterApply_calmer _ applier raised)
  cases rest with
  | nil =>
    refine ended false (safe.calmer ?_)
    unfold applyFinish
    split
    · exact .of_fields rfl rfl rfl rfl rfl rfl rfl rfl (.inl rfl)
    · exact .of_fields rfl rfl rfl rfl rfl rfl rfl rfl (.inl rfl)
  | cons action rest =>
    by_cases on : action = turnOn
    · subst on
      exact (safe.turnOnRequested (turnsOn rest rfl)).calmer (goesOn_calmer locked)
    · cases off : isExecuteOff action with
      | true =>
        cases action with
        | executeOff defensive =>
          have tagged := safe.executes decision input _ applier locked (by simp [isExecuteOff])
          exact (safe.offRequested tagged).calmer (goesOn_calmer locked)
        | _ => cases off
      | false =>
        have quiet := controller.applyAction_quiet shared action saved on off
        simp only [ZoneController.act]
        generalize controller.applyAction shared action saved = result at quiet ⊢
        obtain ⟨⟨acted, shared'⟩, raised⟩ := result
        have acting : PulseSafe now acted := safe.calmer quiet.calmer
        cases raised with
        | none =>
          have noted : acted.noteRequest action input = acted := by
            cases action <;> first | rfl | cases off
          simp only [noted]
          exact acting.calmer (goesOn_calmer (quiet.locked.trans locked))
        | some err =>
          cases err with
          | storeWriteVerification _ => exact ended false acting.handlePersistFailure
          | _ => exact ended true acting

/-- What a step has to meet: a decision that starts a pulse, and the ON of that pulse, find
no OFF requested or running, and a dispatched ON finds no OFF instant recorded. -/
structure PulseApart (controller next : ZoneController) (shared : SharedState)
    (label : ControllerLabel) : Prop where
  starts : turnOn ∈ next.ahead → turnOn ∉ controller.ahead → controller.StartsClean
  turnsOn : ∀ saved rest, label = .act saved → controller.ahead = turnOn :: rest →
    controller.OffSettled
  dispatches : ∀ authority session, label = .gate authority → controller.session = some session →
    (controller.evaluateOnAuthority shared session.sessionId true authority).authorized = true →
    controller.DispatchesClean

theorem PulseSafe.step (safe : PulseSafe shared.now controller)
    (apart : controller.PulseApart next shared label)
    (stepped : controller.step shared label sessionId = some (next, shared')) :
    PulseSafe shared'.now next := by
  have moved := step_sharedMove stepped
  rw [moved.now]
  refine closed_pulseSafe.step moved.now safe ?_ (.inr ?_) apart.starts apart.dispatches
    (fun _ => trivial)
    (fun _ _ => safe.calmer (.of_fields rfl rfl rfl rfl rfl rfl rfl rfl (.inl rfl))) stepped
  · rintro saved decision input rest applier rfl locked
    refine safe.act locked fun tail same => apart.turnsOn saved tail rfl ?_
    simp [ahead, locked, same]
  · exact fun shared configurationChanged serviceFailed safe =>
      safe.compensate shared configurationChanged serviceFailed

/-- A controller before its first step: nothing requested, running, observed or dispatched. -/
structure OffUntouched (controller : ZoneController) : Prop where
  offRequested : controller.offRequested = false
  offOperations : controller.offOperations = []
  dispatches : controller.dispatches = []
  locked : controller.locked = none

theorem OffUntouched.pulseSafe (untouched : controller.OffUntouched) :
    PulseSafe now controller := by
  refine ⟨?_, ?_, ?_, ?_, ?_, ?_, ?_⟩ <;>
    simp [untouched.offRequested, untouched.offOperations, untouched.dispatches, untouched.locked]

end ZoneController

/-! ## Runs of an entry -/

namespace Entry

variable {κ : Type} [DecidableEq κ] {entry next start finish : Entry κ} {label : EntryLabel κ}

/-- Pulses are kept apart from OFF of an earlier one, and the clock does not go back. -/
structure PulsesApart (entry : Entry κ) (label : EntryLabel κ) (next : Entry κ) : Prop where
  controllers : ∀ key label' sessionId, label = .controller key label' sessionId →
    (entry.controllers key).PulseApart (next.controllers key) entry.shared label'
  clock : ∀ now, label = .tick now → entry.shared.now ≤ now

/-- The invariant of such runs. -/
def PulseSafe (entry : Entry κ) : Prop :=
  ∀ key, (entry.controllers key).PulseSafe entry.shared.now

theorem PulseSafe.step (safe : entry.PulseSafe) (stepped : entry.step label = some next)
    (apart : entry.PulsesApart label next) : next.PulseSafe := by
  intro other
  rcases step_cases stepped with
    ⟨key, label', sessionId, controller, shared, rfl, moved, rfl⟩ | moved
  · have now := (ZoneController.step_sharedMove moved).now
    by_cases same : other = key
    · subst same
      have stepApart := apart.controllers other label' sessionId rfl
      simp only [Function.update_self] at stepApart ⊢
      exact (safe other).step stepApart moved
    · simp only [Function.update_of_ne same, now]
      exact safe other
  · rw [moved.controllers]
    rcases moved.now with same | ticked
    · rw [same]
      exact safe other
    · have later := apart.clock _ ticked
      exact { safe other with
        dispatched := fun dispatch member => ((safe other).dispatched dispatch member).trans later }

/-- In a run that keeps pulses apart, OFF evidence is exact. -/
theorem pulseExact_of_run (reached : system.Run PulsesApart start finish)
    (untouched : ∀ key, (start.controllers key).OffUntouched) (key : κ) :
    (finish.controllers key).PulseExact := by
  have invariant : finish.PulseSafe := reached.preserves (fun key => (untouched key).pulseSafe)
    fun _ _ _ safe stepped apart => safe.step stepped apart
  exact (invariant key).pulseExact

private def closed : ActuatorAssessment := ⟨true, true, false, Bool.and_false true⟩

private def opened : ActuatorAssessment := ⟨true, false, true, Bool.false_and true⟩

/-- A check that implies that the pulses of the sample zone are kept apart. -/
def apartCheck (entry : Entry Unit) (label : EntryLabel Unit) (next : Entry Unit) : Bool :=
  let controller := entry.controllers ()
  let settled := controller.offOperations.all OffOperation.isDone
  match label with
  | .tick now => decide (entry.shared.now ≤ now)
  | .controller _ (.gate _) _ => controller.offProvenAt.isNone &&
      controller.actuatorChanges.all (fun change => !change.assessment.provenOff) &&
      decide (turnOn ∉ (next.controllers ()).ahead)
  | .controller _ _ _ =>
    (decide (turnOn ∉ (next.controllers ()).ahead) || !controller.offRequested && settled) &&
      (decide (controller.ahead.head? ≠ some turnOn) || settled)
  | _ => true

theorem pulsesApart_of_check {entry next : Entry Unit} {label : EntryLabel Unit}
    (permitted : entry.apartCheck label next = true) : entry.PulsesApart label next := by
  have settles : ((entry.controllers ()).offOperations.all OffOperation.isDone) = true →
      (entry.controllers ()).OffSettled := fun settled current running =>
    List.all_eq_true.mp settled current running
  constructor
  · rintro ⟨⟩ label' sessionId rfl
    cases label' with
    | gate authority =>
      simp only [apartCheck, Bool.and_eq_true, Option.isNone_iff_eq_none, List.all_eq_true,
        Bool.not_eq_true', decide_eq_true_eq] at permitted
      exact ⟨fun starts => absurd starts permitted.2, by rintro _ _ ⟨⟩,
        fun _ _ _ _ _ => permitted.1⟩
    | _ =>
      simp only [apartCheck, Bool.and_eq_true, Bool.or_eq_true, decide_eq_true_eq,
        Bool.not_eq_true'] at permitted
      refine ⟨fun starts _ => ?_, fun saved rest _ ahead => ?_, by rintro _ _ ⟨⟩⟩
      · obtain ⟨unrequested, settled⟩ := permitted.1.resolve_left (not_not.mpr starts)
        exact ⟨unrequested, settles settled⟩
      · exact settles (permitted.2.resolve_left (by simp [ahead]))
  · rintro now rfl
    exact of_decide_eq_true permitted

/-- A manual session is stopped, and its OFF is confirmed a minute after ON was dispatched. -/
def stoppedLabels : List (EntryLabel Unit) :=
  let authority : OnAuthority := ⟨[], false, closed⟩
  let acts (count : Nat) : List ControllerLabel := List.replicate count (.act true)
  let waters : List (List ControllerLabel) :=
    [[.dispatch (.manualStartRequested (some 60))], acts 5,
      [.wake, .gate authority, .actuatorEvent opened true true, .serviceReturned false authority,
        .reenter authority, .anchor true, .recheck authority], acts 3, [.recheck authority]]
  let stops : List (List ControllerLabel) :=
    [[.dispatch .stopRequested], acts 3,
      [.wake, .actuatorEvent closed false false, .offServiceReturned 0 closed, .offDispatch 0]]
  (waters.flatten.map (.controller () · "session")).append
    (.tick 160 :: stops.flatten.map (.controller () · ""))

private def appliedOff (controller : ZoneController) : Option (Nat × ControllerEvent) :=
  match controller.locked with
  | some (.applying _ input _ (.offOperation operation)) => some (operation, input.event)
  | _ => none

private theorem locked_of_appliedOff {controller : ZoneController} {operation : Nat}
    {event : ControllerEvent} (applied : appliedOff controller = some (operation, event)) :
    ∃ decision input rest,
      controller.locked = some (.applying decision input rest (.offOperation operation)) ∧
      input.event = event := by
  unfold appliedOff at applied
  split at applied
  · rename_i decision input rest current locked
    obtain ⟨rfl, rfl⟩ := Prod.mk.inj (Option.some.inj applied)
    exact ⟨decision, input, rest, locked, rfl⟩
  · cases applied

/-- The operation of the pulse is about to record its OFF. -/
theorem pulseExact_of_run_stopped :
    ∃ finish decision input rest,
      system.runWhile apartCheck ⟨fun _ => sampleController, sampleShared⟩ stoppedLabels =
        some finish ∧
      (finish.controllers ()).locked = some (.applying decision input rest (.offOperation 0)) ∧
      input.event = .offConfirmed 160 ∧
      (finish.controllers ()).dispatches = [(⟨"session", 0⟩, 100)] ∧
      (finish.controllers ()).PulseExact := by
  obtain ⟨finish, ran, given⟩ := (Option.any_eq_true _ _).mp
    (show (system.runWhile apartCheck ⟨fun _ => sampleController, sampleShared⟩
      stoppedLabels).any (fun finish =>
        decide (appliedOff (finish.controllers ()) = some (0, .offConfirmed 160)) &&
        decide ((finish.controllers ()).dispatches = [(⟨"session", 0⟩, 100)])) = true
      by decide +kernel)
  simp only [Bool.and_eq_true, decide_eq_true_eq] at given
  obtain ⟨applied, dispatched⟩ := given
  obtain ⟨decision, input, rest, locked, event⟩ := locked_of_appliedOff applied
  exact ⟨finish, decision, input, rest, ran, locked, event, dispatched, pulseExact_of_run
    (.of_runWhile (fun _ _ _ => pulsesApart_of_check) ran) (fun _ => ⟨rfl, rfl, rfl, rfl⟩) ()⟩

/-! ## An OFF operation that outlives its session -/

/-- The first session ends by an external OFF, whose defensive OFF is still running when the
second session starts; then the operation reports its success. -/
def outlivedOffLabels : List (EntryLabel Unit) :=
  let authority : OnAuthority := ⟨[], false, closed⟩
  let acts (count : Nat) : List ControllerLabel := List.replicate count (.act true)
  let first : List (List ControllerLabel) :=
    [[.dispatch (.manualStartRequested (some 60))], acts 5,
      [.wake, .gate authority, .actuatorEvent opened true true, .serviceReturned false authority,
        .reenter authority, .anchor true, .recheck authority], acts 3, [.recheck authority,
        .actuatorChange, .actuatorEvent closed false false, .actuatorChange, .provingOff true],
      acts 6]
  let second : List (List ControllerLabel) :=
    [[.wake, .dispatch (.manualStartRequested (some 60))], acts 2,
      [.slotRequest, .slotResume, .slotOffer], acts 5,
      [.offServiceReturned 0 closed, .offDispatch 0]]
  (first.flatten.map (.controller () · "first")).append
    (second.flatten.map (.controller () · "second"))

private def appliesForeign (controller : ZoneController) : Bool :=
  match controller.locked with
  | some (.applying _ input _ (.offOperation operation)) =>
    (controller.offOperations[operation]?.bind OffOperation.requestedFor) !=
      input.session.map SessionContext.pulse
  | _ => false

private theorem not_pulseExact_of_appliesForeign {controller : ZoneController}
    (foreign : appliesForeign controller = true) : ¬ controller.PulseExact := by
  intro exact'
  unfold appliesForeign at foreign
  split at foreign
  · rename_i decision input rest operation locked
    obtain ⟨current, session, found, held, tagged⟩ :=
      exact'.applied decision input rest operation locked
    simp [found, held, tagged] at foreign
  · cases foreign

/-- The operation begun for the first session finishes the second one. -/
theorem not_pulseExact_outlived_off :
    ¬ ∀ start finish : Entry Unit, system.Run (fun _ _ _ => True) start finish →
      (∀ key, (start.controllers key).OffUntouched) →
      ∀ key, (finish.controllers key).PulseExact := by
  intro claimed
  have foreign : ((system.run ⟨fun _ => sampleController, sampleShared⟩ outlivedOffLabels).any
      fun finish => appliesForeign (finish.controllers ())) = true := by decide +kernel
  obtain ⟨finish, executed, foreign⟩ := (Option.any_eq_true _ _).mp foreign
  exact not_pulseExact_of_appliesForeign foreign
    (claimed _ finish (LabelledSystem.Run.of_run executed) (fun _ => ⟨rfl, rfl, rfl, rfl⟩) ())

end Entry

end MoistureLoop
