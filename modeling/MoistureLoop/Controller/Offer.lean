import MoistureLoop.Controller.Frames
import MoistureLoop.Controller.Step
import MoistureLoop.StateMachine.Effect

/-! # What becomes of an offered grant

`_await_slot` owns the slot when it dispatches, as `SlotGranted` or as the manual request
that waited for it.  The grant is settled when the decision starts a pulse or releases the
slot.  `Takes` lists the inputs where it does: the resting states other than a startable
IDLE and a due SOAKING keep a slot that nothing uses. -/

open MoistureLoop.Action

namespace MoistureLoop.StateMachine

/-- The input of the decision that consumes an offered grant: the zone owns the slot, the
controller supplies an identity, and a VALID observation carries its value. -/
structure Offered (inp : TransitionInput) : Prop where
  event : inp.event = .slotGranted ∨ ∃ requestedS, inp.event = .manualStartRequested requestedS
  owns : inp.resource.slotGranted = true
  identity : inp.newSessionIdentity.isSome
  reading : inp.observation.classification = .valid → inp.observation.value.isSome

/-- The zone is WATERING, or the decision starts a pulse or gives the slot back. -/
def Settled (inp : TransitionInput) : Prop :=
  inp.state = .watering ∨
    ∃ decision, decide inp = .ok decision ∧
      (turnOn ∈ decision.actions ∨ releaseSlot ∈ decision.actions)

/-- A qualifying recheck that ends the session instead of asking for the next pulse. -/
def recheckEnds (inp : TransitionInput) (session : SessionContext) (value : Moisture) : Prop :=
  inp.config.targetThreshold ≤ value ∨ ¬ session.cycle < inp.config.maxCycles ∨
    sessionFits inp session = false ∨ dailyFits inp = false ∨ inp.actuator.available = false

/-- The inputs on which an offered grant is settled. -/
inductive Takes (inp : TransitionInput) : Prop where
  | watering : inp.state = .watering → Takes inp
  | unblocked : inp.state = .idle → inp.event = .slotGranted →
      inp.resource.blockersEmpty = true → Takes inp
  | declined {freshness : List String} : inp.state = .idle → inp.event = .slotGranted →
      freshnessFailures inp = .ok freshness → autoStartFailures inp freshness ≠ [] → Takes inp
  | manual {requestedS : Option Seconds} : inp.state = .idle ∨ inp.state = .fault →
      inp.event = .manualStartRequested requestedS → manualGuardFailures inp requestedS = [] →
      Takes inp
  | unqualified {session : SessionContext} {soakEnds : Instant} : inp.state = .soaking →
      inp.event = .slotGranted → inp.session = some session →
      session.pendingTerminationReason = none → session.soakEndsAtUtc = some soakEnds →
      soakEnds ≤ inp.nowUtc → postQualifies inp = false → Takes inp
  | recheck {session : SessionContext} {soakEnds : Instant} {value : Moisture} :
      inp.state = .soaking → inp.event = .slotGranted → inp.session = some session →
      session.pendingTerminationReason = none → session.soakEndsAtUtc = some soakEnds →
      soakEnds ≤ inp.nowUtc → postQualifies inp = true → inp.observation.value = some value →
      recheckEnds inp session value ∨
        (inp.resource.blockersEmpty = true ∧ inp.actuator.provenOff = true) → Takes inp

/-! ## Pulse starts -/

theorem turnOn_mem_of_startAutoPulse {inp : TransitionInput} {session : Option SessionContext}
    {decision : Decision} (started : startAutoPulse inp session = .ok decision) :
    turnOn ∈ decision.actions := by
  unfold startAutoPulse at started
  split at started
  · cases started
  · split at started
    · split at started
      · cases started
      · obtain rfl := Except.ok.inj started
        simp
    · obtain rfl := Except.ok.inj started
      simp

theorem startAutoPulse_ok {inp : TransitionInput} (session : Option SessionContext)
    {reportedAt : Instant} (reported : inp.observation.reportedAtUtc = some reportedAt)
    (identity : inp.newSessionIdentity.isSome) :
    ∃ decision, startAutoPulse inp session = .ok decision := by
  obtain ⟨minted, supplied⟩ := Option.isSome_iff_exists.mp identity
  unfold startAutoPulse
  rw [reported, supplied]
  cases session <;> exact ⟨_, rfl⟩

theorem reported_of_freshValid {inp : TransitionInput} (fresh : freshValid inp = true) :
    ∃ reportedAt, inp.observation.reportedAtUtc = some reportedAt := by
  cases reported : inp.observation.reportedAtUtc with
  | none => simp [freshValid, MoistureObservation.isFresh, reported] at fresh
  | some reportedAt => exact ⟨reportedAt, rfl⟩

/-- An offered grant meets a freshness result, never the assertion. -/
theorem Offered.freshnessFailures {inp : TransitionInput} (offered : Offered inp) :
    ∃ freshness, StateMachine.freshnessFailures inp = .ok freshness := by
  unfold StateMachine.freshnessFailures
  split
  · rename_i fresh
    have classified : inp.observation.classification = .valid := by
      simp only [freshValid, Bool.and_eq_true, beq_iff_eq] at fresh
      exact fresh.1
    obtain ⟨value, read⟩ := Option.isSome_iff_exists.mp (offered.reading classified)
    simp [read]
  · exact ⟨_, rfl⟩

/-! ## One state at a time -/

/-- IDLE: a declined grant is released, and a startable zone starts unless a blocker makes
it ask for the slot that it owns. -/
theorem evaluateAutoStart_settles_iff {inp : TransitionInput} (offered : Offered inp)
    (granted : inp.event = .slotGranted) {freshness : List String}
    (fresh : freshnessFailures inp = .ok freshness) :
    (∃ decision, evaluateAutoStart inp = .ok decision ∧
        (turnOn ∈ decision.actions ∨ releaseSlot ∈ decision.actions)) ↔
      autoStartFailures inp freshness ≠ [] ∨ inp.resource.blockersEmpty = true := by
  unfold evaluateAutoStart
  rw [fresh]
  by_cases refused : autoStartFailures inp freshness ≠ []
  · simp [refused, granted]
  · rw [not_not] at refused
    cases blocked : inp.resource.blockersEmpty with
    | false => simp [refused, offered.owns]
    | true =>
      obtain ⟨reportedAt, reported⟩ :=
        reported_of_freshValid (ready_of_autoStartFailures fresh refused).2
      obtain ⟨decision, started⟩ := startAutoPulse_ok none reported offered.identity
      simp [refused, offered.owns, started, turnOn_mem_of_startAutoPulse started]

/-- IDLE and FAULT: an admitted manual request starts, and a refused one keeps the slot. -/
theorem manualStart_settles_iff {inp : TransitionInput} (offered : Offered inp)
    (requestedS : Option Seconds) (row : String) :
    (∃ decision, manualStart inp requestedS row = .ok decision ∧
        (turnOn ∈ decision.actions ∨ releaseSlot ∈ decision.actions)) ↔
      manualGuardFailures inp requestedS = [] := by
  obtain ⟨identity, supplied⟩ := Option.isSome_iff_exists.mp offered.identity
  unfold manualStart
  cases requestedS with
  | none => simp [manualGuardFailures]
  | some requested =>
    cases failed : manualGuardFailures inp (some requested) with
    | nil => simp [offered.owns, supplied]
    | cons => simp

theorem soakingRecheck_settles_iff {inp : TransitionInput} (offered : Offered inp)
    {session : SessionContext} {value : Moisture} (read : inp.observation.value = some value)
    (qualifies : postQualifies inp = true) :
    (∃ decision, soakingRecheck inp session = .ok decision ∧
        (turnOn ∈ decision.actions ∨ releaseSlot ∈ decision.actions)) ↔
      recheckEnds inp session value ∨
        (inp.resource.blockersEmpty = true ∧ inp.actuator.provenOff = true) := by
  obtain ⟨reportedAt, reported⟩ := reported_of_freshValid (freshValid_of_postQualifies qualifies)
  obtain ⟨started, starts⟩ := startAutoPulse_ok
    (some { session with lastRecheckValue := some value }) reported offered.identity
  have asks := turnOn_mem_of_startAutoPulse starts
  have fits : sessionFits inp { session with lastRecheckValue := some value } =
      sessionFits inp session := rfl
  unfold soakingRecheck recheckEnds
  simp only [read, fits, offered.owns, Bool.true_and]
  by_cases target : inp.config.targetThreshold ≤ value
  · simp [target, finalizeSoakingCompletion]
  by_cases cycles : session.cycle < inp.config.maxCycles
  case neg => simp [target, cycles, finalizeSoakingCompletion]
  cases runtime : sessionFits inp session
  case false => simp [target, cycles, finalizeSoakingCompletion]
  cases daily : dailyFits inp
  case false => simp [target, cycles, finalizeSoakingCompletion]
  cases available : inp.actuator.available
  case false => simp [target, cycles, finalizeSoakingFault]
  cases blocked : inp.resource.blockersEmpty <;> cases off : inp.actuator.provenOff <;>
    simp [target, cycles, starts, asks]

/-- SOAKING: a grant is settled once the soak is over and no termination is committed,
unless a qualifying recheck asks again for the slot that it owns. -/
theorem decideSoaking_settles_iff {inp : TransitionInput} (offered : Offered inp)
    (granted : inp.event = .slotGranted) (state : inp.state = .soaking) :
    (∃ decision, decideSoaking inp = .ok decision ∧
        (turnOn ∈ decision.actions ∨ releaseSlot ∈ decision.actions)) ↔ Takes inp := by
  constructor
  · rintro ⟨decision, decided, settles⟩
    unfold decideSoaking at decided
    cases owned : inp.session with
    | none => simp [owned] at decided
    | some session =>
      cases pending : session.pendingTerminationReason with
      | some reason =>
        obtain rfl : noOp = decision := by simpa [owned, pending, granted] using decided
        simp [noOp] at settles
      | none =>
        replace decided : soakingDeadlineOrEvaluate inp session = .ok decision := by
          simpa [owned, pending, granted] using decided
        unfold soakingDeadlineOrEvaluate at decided
        cases ends : session.soakEndsAtUtc with
        | none => simp [ends] at decided
        | some soakEnds =>
          simp only [ends] at decided
          split at decided
          · obtain rfl := Except.ok.inj decided
            simp [noOp] at settles
          rename_i due
          rw [not_lt] at due
          cases qualifies : postQualifies inp with
          | false => exact .unqualified state granted owned pending ends due qualifies
          | true =>
            rw [if_pos qualifies] at decided
            obtain ⟨value, read⟩ : ∃ value, inp.observation.value = some value := by
              have fresh := freshValid_of_postQualifies qualifies
              simp only [freshValid, Bool.and_eq_true, beq_iff_eq] at fresh
              exact Option.isSome_iff_exists.mp (offered.reading fresh.1)
            exact .recheck state granted owned pending ends due qualifies read
              ((soakingRecheck_settles_iff offered read qualifies).mp
                ⟨decision, decided, settles⟩)
  · intro takes
    cases takes with
    | watering other | unblocked other | declined other => rw [state] at other; cases other
    | manual other => simp [state] at other
    | unqualified _ _ owned pending ends due qualifies =>
      refine ⟨{ actions := [releaseSlot], guardResult := some (guardFailure [guardPost]) }, ?_,
        .inr (by simp)⟩
      simp [decideSoaking, owned, pending, granted, soakingDeadlineOrEvaluate, ends, not_lt.mpr due,
        qualifies]
    | recheck _ _ owned pending ends due qualifies read resource =>
      obtain ⟨decision, decided, settles⟩ :=
        (soakingRecheck_settles_iff offered read qualifies).mpr resource
      refine ⟨decision, ?_, settles⟩
      simpa [decideSoaking, owned, pending, granted, soakingDeadlineOrEvaluate, ends,
        not_lt.mpr due, qualifies] using decided

/-! ## The offered grant -/

/-- An offered grant reaches the decision of the zone's state. -/
theorem Offered.decide_eq {inp : TransitionInput} (offered : Offered inp) :
    decide inp = match inp.state with
      | .idle => decideIdle inp
      | .disabled => decideDisabled inp
      | .watering => decideWatering inp
      | .soaking => decideSoaking inp
      | .fault => decideFault inp := by
  rcases offered.event with granted | ⟨requestedS, requested⟩
  · cases state : inp.state <;> simp only [decide, granted, state]
  · cases state : inp.state <;> simp only [decide, requested, state]

/-- A resting zone that answers without an action keeps the slot. -/
theorem not_settled_of_quiet {inp : TransitionInput} (resting : inp.state ≠ .watering)
    (quiet : ∀ decision, decide inp = .ok decision → decision.actions = []) : ¬ Settled inp := by
  rintro (flowing | ⟨decision, decided, settles⟩)
  · exact resting flowing
  · simp [quiet decision decided] at settles

theorem idle_settled_iff {inp : TransitionInput} (offered : Offered inp)
    (state : inp.state = .idle) : Settled inp ↔ Takes inp := by
  have decided : decide inp = decideIdle inp := by rw [offered.decide_eq, state]
  unfold Settled
  rcases offered.event with granted | ⟨requestedS, requested⟩
  · obtain ⟨freshness, fresh⟩ := offered.freshnessFailures
    have settles := evaluateAutoStart_settles_iff offered granted fresh
    simp only [decided, decideIdle, granted, state, reduceCtorEq, false_or, settles]
    constructor
    · rintro (refused | unblocked)
      · exact .declined state granted fresh refused
      · exact .unblocked state granted unblocked
    · intro takes
      cases takes <;> simp_all
  · have settles := manualStart_settles_iff offered requestedS "T3"
    simp only [decided, decideIdle, requested, state, reduceCtorEq, false_or, settles]
    refine ⟨fun passed => .manual (.inl state) requested passed, fun takes => ?_⟩
    cases takes <;> simp_all

/-- DISABLED neither takes a grant nor gives it back. -/
theorem disabled_settled_iff {inp : TransitionInput} (offered : Offered inp)
    (state : inp.state = .disabled) : Settled inp ↔ Takes inp := by
  have decided : decide inp = decideDisabled inp := by rw [offered.decide_eq, state]
  have quiet : ∀ decision, decide inp = .ok decision → decision.actions = [] := by
    intro decision returned
    rw [decided] at returned
    rcases offered.event with granted | ⟨requestedS, requested⟩
    · obtain rfl : noOp = decision := by simpa [decideDisabled, granted] using returned
      rfl
    · rw [decideDisabled, requested] at returned
      obtain rfl := Except.ok.inj returned
      rfl
  refine ⟨fun settled => absurd settled (not_settled_of_quiet (by simp [state]) quiet),
    fun takes => ?_⟩
  cases takes <;> simp_all

/-- SOAKING refuses a manual request without releasing the slot. -/
theorem soaking_settled_iff {inp : TransitionInput} (offered : Offered inp)
    (state : inp.state = .soaking) : Settled inp ↔ Takes inp := by
  have decided : decide inp = decideSoaking inp := by rw [offered.decide_eq, state]
  rcases offered.event with granted | ⟨requestedS, requested⟩
  · rw [← decideSoaking_settles_iff offered granted state]
    simp [Settled, state, decided]
  · have quiet : ∀ decision, decide inp = .ok decision → decision.actions = [] := by
      intro decision returned
      rw [decided, decideSoaking] at returned
      split at returned
      · cases returned
      · split at returned
        · simp only [requested] at returned
          obtain rfl := Except.ok.inj returned
          rfl
        · simp only [requested] at returned
          obtain rfl := Except.ok.inj returned
          rfl
    refine ⟨fun settled => absurd settled (not_settled_of_quiet (by simp [state]) quiet),
      fun takes => ?_⟩
    cases takes <;> simp_all

/-- FAULT ignores an automatic grant. -/
theorem not_settled_of_fault {inp : TransitionInput} (state : inp.state = .fault)
    (granted : inp.event = .slotGranted) : ¬ Settled inp := by
  refine not_settled_of_quiet (by simp [state]) fun decision decided => ?_
  obtain rfl : noOp = decision := by simpa [decide, decideFault, state, granted] using decided
  rfl

/-- FAULT keeps the slot after a refused manual request. -/
theorem fault_settled_iff {inp : TransitionInput} (offered : Offered inp)
    (state : inp.state = .fault) : Settled inp ↔ Takes inp := by
  have decided : decide inp = decideFault inp := by rw [offered.decide_eq, state]
  rcases offered.event with granted | ⟨requestedS, requested⟩
  · refine ⟨fun settled => absurd settled (not_settled_of_fault state granted), fun takes => ?_⟩
    cases takes <;> simp_all
  · have settles := manualStart_settles_iff offered requestedS "T40"
    unfold Settled
    simp only [decided, decideFault, requested, state, reduceCtorEq, false_or, settles]
    refine ⟨fun passed => .manual (.inr state) requested passed, fun takes => ?_⟩
    cases takes <;> simp_all

/-- An offered grant starts a pulse, finds the zone WATERING or is given back on exactly
the inputs of `Takes`. -/
theorem settled_iff_takes {inp : TransitionInput} (offered : Offered inp) :
    Settled inp ↔ Takes inp := by
  cases state : inp.state with
  | watering => exact ⟨fun _ => .watering state, fun _ => .inl state⟩
  | idle => exact idle_settled_iff offered state
  | disabled => exact disabled_settled_iff offered state
  | soaking => exact soaking_settled_iff offered state
  | fault => exact fault_settled_iff offered state

/-- The sample zone without a reading declines a grant. -/
theorem settled_iff_takes_declined :
    Settled (sampleController.buildInput sampleShared .slotGranted "session") ↔
      Takes (sampleController.buildInput sampleShared .slotGranted "session") :=
  settled_iff_takes ⟨.inl rfl, by decide +kernel, by decide +kernel, by decide +kernel⟩

end MoistureLoop.StateMachine

namespace MoistureLoop

open StateMachine

/-- The slot task is about to dispatch the grant of the slot that its zone owns. -/
structure ZoneController.OffersGrant (controller : ZoneController) (shared : SharedState)
    (pendingManual : Option Seconds) : Prop where
  offering : controller.slotTask = some (.offering pendingManual)
  unlocked : controller.locked = none
  owns : shared.slots.owner = some controller.zoneId

/-- The input of the decision that `_await_slot` asks for. -/
def ZoneController.offeredInput (controller : ZoneController) (shared : SharedState)
    (pendingManual : Option Seconds) (sessionId : String) : TransitionInput :=
  (controller.rollDaily shared.calendar shared.now).buildInput shared
    (offeredEvent pendingManual) sessionId

/-- What `_await_slot` dispatches is an offered grant. -/
theorem ZoneController.OffersGrant.offered {controller : ZoneController} {shared : SharedState}
    {pendingManual : Option Seconds} (offers : controller.OffersGrant shared pendingManual)
    (reading : controller.observation.classification = .valid →
      controller.observation.value.isSome) (sessionId : String) :
    Offered (controller.offeredInput shared pendingManual sessionId) where
  event := by
    cases pendingManual with
    | none => exact .inl rfl
    | some requestedS => exact .inr ⟨some requestedS, rfl⟩
  owns := by
    have same := (controller.rollDaily_sameDecided shared.calendar shared.now).zoneId
    simp [offeredInput, buildInput, offers.owns, same]
  identity := rfl
  reading := by
    intro classified
    have same : (controller.rollDaily shared.calendar shared.now).observation =
        controller.observation := by
      unfold rollDaily
      split <;> rfl
    simp only [offeredInput, buildInput, same] at classified ⊢
    exact reading classified

/-- Zone `bed`, idle with a dry reading, while grants are not enabled yet. -/
def sampleDry : Entry Unit where
  controllers _ := { sampleController with observation := ⟨some 20, .valid, some 90⟩ }
  shared := { sampleShared with slots := {} }

/-- The zone asks for the slot; its sensor is removed while it waits, and then the slot is
granted. -/
def faultWhileQueuedLabels : List (EntryLabel Unit) :=
  let labels : List (List ControllerLabel) :=
    [[.dispatch .autoEvaluate], List.replicate 2 (.act true), [.slotRequest,
      .dispatch (.configurationInvalid false)], List.replicate 3 (.act true)]
  (labels.flatten.map (.controller () · "session")) ++
    [.admission .enableGrants, .controller () .slotResume "session"]

/-- A grant offered to a zone in FAULT stays with it: nothing starts and nothing releases. -/
theorem not_settled_fault_while_queued :
    ¬ ∀ finish : Entry Unit, Entry.system.Run (fun _ _ _ => True) sampleDry finish →
      ∀ key pendingManual, (finish.controllers key).OffersGrant finish.shared pendingManual →
        Settled ((finish.controllers key).offeredInput finish.shared pendingManual "session") := by
  intro settles
  obtain ⟨finish, executed, parked⟩ := (Option.any_eq_true _ _).mp
    (by decide +kernel : (Entry.system.run sampleDry faultWhileQueuedLabels).any fun finish =>
      let controller := finish.controllers ()
      controller.slotTask = some (.offering none) ∧ controller.locked = none ∧
        finish.shared.slots.owner = some controller.zoneId ∧ controller.state = .fault)
  obtain ⟨offering, unlocked, owns, faulted⟩ := of_decide_eq_true parked
  have state : ((finish.controllers ()).offeredInput finish.shared none "session").state = .fault :=
    ((finish.controllers ()).rollDaily_sameDecided _ _).state.trans faulted
  exact not_settled_of_fault state rfl
    (settles finish (.of_run executed) () none ⟨offering, unlocked, owns⟩)

end MoistureLoop
