import MoistureLoop.StateMachine.SessionChange
import MoistureLoop.Store.Identity

/-! # The budgets of an automatic session

T1 and T25 check the budgets with different guards; in between runtime is charged and the
session may be adopted by another run.  With one valid configuration every pulse of an
automatic session starts within the session and the daily limit, its cycles count its
pulses, and a recheck that finds the soil too dry and a limit exhausted ends the session
with the first exhausted one. -/

open MoistureLoop.Action

namespace MoistureLoop

namespace StateMachine

/-- A pulse of an automatic session starts within its budgets, as the first of its session
or as the next of the one before. -/
structure PulseBudgeted (inp : TransitionInput) (session : SessionContext) : Prop where
  fitsSession : session.sessionRuntimeS + inp.config.pulseDurationS ≤ inp.config.maxSessionRuntimeS
  fitsDay : inp.dailyRuntimeS + inp.config.pulseDurationS ≤ inp.config.maxDailyRuntimeS
  cycles : 1 ≤ session.cycle ∧ session.cycle ≤ inp.config.maxCycles
  counted : (inp.state = .idle ∧ session.cycle = 1) ∨
    ∃ before, inp.session = some before ∧ inp.state = .soaking ∧
      session.sessionId = before.sessionId ∧ session.cycle = before.cycle + 1

/-- The first exhausted limit of a session that needs another pulse, in the order of the
recheck; an unavailable actuator comes last. -/
def firstExhausted (inp : TransitionInput) (session : SessionContext) : Option CompletionReason :=
  if inp.config.maxCycles ≤ session.cycle then some .maxCycles
  else if inp.config.maxSessionRuntimeS < session.sessionRuntimeS + inp.config.pulseDurationS then
    some .maxSessionRuntime
  else if inp.config.maxDailyRuntimeS < inp.dailyRuntimeS + inp.config.pulseDurationS then
    some .dailyRuntimeLimit
  else if inp.actuator.available = false then some .actuatorFault
  else none

/-- The events that can bring a recheck; a report shows the current observation. -/
def Rechecks (inp : TransitionInput) : Prop :=
  inp.event = .autoEvaluate ∨ inp.event = .slotGranted ∨ inp.event = .soakDeadlineReached ∨
    inp.event = .graceDeadlineReached ∨ inp.event = .moistureReport inp.observation

/-- The event looks at a soak that has not reached its end: a report by its own time, the grace
deadline never, the others by the clock. -/
def BeforeSoakEnd (inp : TransitionInput) (session : SessionContext) : Prop :=
  ∃ soakEnds, session.soakEndsAtUtc = some soakEnds ∧
    match inp.event with
    | .moistureReport observation => effectiveAt inp observation < soakEnds
    | .graceDeadlineReached => False
    | _ => inp.nowUtc < soakEnds

/-- What an event does that may recheck a soil below the target. -/
inductive RecheckOutcome (inp : TransitionInput) (session : SessionContext) (decision : Decision) :
    Prop where
  /-- The time of the recheck has not come. -/
  | waits : BeforeSoakEnd inp session → Waits decision → RecheckOutcome inp session decision
  | pulse : turnOn ∈ decision.actions → firstExhausted inp session = none →
      RecheckOutcome inp session decision
  | slotWait : requestSlot ∈ decision.actions → decision.clearSession = false →
      firstExhausted inp session = none → RecheckOutcome inp session decision
  | ends {reason : CompletionReason} : firstExhausted inp session = some reason →
      decision.clearSession = true → decision.reason = some reason →
      RecheckOutcome inp session decision

/-- The cycle of an automatic session counts its pulses, and only such a session soaks. -/
def CycleBounded (config : ZoneConfig) (state : ControllerState) (session : SessionContext) :
    Prop :=
  (session.mode = .auto → 1 ≤ session.cycle ∧ session.cycle ≤ config.maxCycles) ∧
    (state = .soaking → session.mode = .auto)

variable {inp : TransitionInput} {decision : Decision} {config : ZoneConfig}

theorem cycles_of_valid (valid : config.validationErrors = []) :
    1 ≤ config.maxCycles := by
  simp only [ZoneConfig.validationErrors, List.append_eq_nil_iff, ite_eq_left_iff,
    List.cons_ne_nil, imp_false, not_not] at valid
  obtain ⟨⟨⟨⟨⟨⟨⟨-, cycles⟩, -⟩, -⟩, -⟩, -⟩, -⟩, -⟩ := valid
  exact cycles.1

theorem pulse_of_valid (valid : config.validationErrors = []) :
    config.pulseDurationS ≤ config.maxSessionRuntimeS := by
  simp only [ZoneConfig.validationErrors, List.append_eq_nil_iff, ite_eq_left_iff,
    List.cons_ne_nil, imp_false, not_not] at valid
  obtain ⟨⟨⟨⟨⟨⟨-, session⟩, -⟩, -⟩, -⟩, -⟩, -⟩ := valid
  exact session.1

theorem passed_of_evaluateAutoStart (decided : evaluateAutoStart inp = .ok decision)
    (starts : turnOn ∈ decision.actions) :
    inp.enabled = true ∧ intervalElapsed inp = true ∧ dailyFits inp = true := by
  unfold evaluateAutoStart at decided
  cases fresh : freshnessFailures inp with
  | error err => simp [fresh] at decided
  | ok freshness =>
    simp only [fresh] at decided
    split at decided
    · obtain rfl := Except.ok.inj decided
      simp only at starts
      split at starts <;> simp at starts
    · rename_i passed
      simp only [autoStartFailures, ne_eq, not_not, List.append_eq_nil_iff, ite_eq_left_iff,
        List.cons_ne_nil, imp_false] at passed
      obtain ⟨⟨⟨⟨enabled, -⟩, interval⟩, -⟩, daily⟩ := passed
      exact ⟨enabled, interval, daily⟩

theorem soakingRecheck_outcome {session : SessionContext} {value : Moisture}
    (observed : inp.observation.value = some value) (dry : value < inp.config.targetThreshold)
    (decided : soakingRecheck inp session = .ok decision) :
    RecheckOutcome inp session decision := by
  simp only [soakingRecheck, observed] at decided
  rw [if_neg (not_le.mpr dry)] at decided
  split at decided
  · rename_i exhausted
    obtain rfl := Except.ok.inj decided
    have exhausted : inp.config.maxCycles ≤ session.cycle := by simpa using exhausted
    exact .ends (by simp [firstExhausted, exhausted]) rfl rfl
  · rename_i cycles
    have cycles : ¬ inp.config.maxCycles ≤ session.cycle := by simpa using cycles
    split at decided
    · rename_i exhausted
      obtain rfl := Except.ok.inj decided
      have exhausted : inp.config.maxSessionRuntimeS <
          session.sessionRuntimeS + inp.config.pulseDurationS := by
        simpa [sessionFits] using exhausted
      exact .ends (by simp [firstExhausted, cycles, exhausted]) rfl rfl
    · rename_i runtime
      have runtime : ¬ inp.config.maxSessionRuntimeS <
          session.sessionRuntimeS + inp.config.pulseDurationS := by
        simpa [sessionFits] using runtime
      split at decided
      · rename_i exhausted
        obtain rfl := Except.ok.inj decided
        have exhausted : inp.config.maxDailyRuntimeS <
            inp.dailyRuntimeS + inp.config.pulseDurationS := by
          simpa [dailyFits] using exhausted
        exact .ends (by simp [firstExhausted, cycles, runtime, exhausted]) rfl rfl
      · rename_i daily
        have daily : ¬ inp.config.maxDailyRuntimeS <
            inp.dailyRuntimeS + inp.config.pulseDurationS := by
          simpa [dailyFits] using daily
        split at decided
        · rename_i lost
          obtain rfl := Except.ok.inj decided
          have lost : inp.actuator.available = false := by simpa using lost
          exact .ends (by simp [firstExhausted, cycles, runtime, daily, lost]) rfl rfl
        · rename_i available
          have available : inp.actuator.available = true := by simpa using available
          have fits : firstExhausted inp session = none := by
            simp [firstExhausted, cycles, runtime, daily, available]
          split at decided
          · obtain rfl := Except.ok.inj decided
            exact .slotWait (by simp) rfl fits
          · obtain ⟨_, -, -, started⟩ := startAutoPulse_next decided
            exact .pulse (by simp [started.actions, autoStartActions]) fits

/-- A deadline, an evaluation or a grant that qualifies: it is early, or it rechecks. -/
theorem soakingDeadlineOrEvaluate_qualified {session : SessionContext}
    (qualifies : postQualifies inp = true)
    (decided : soakingDeadlineOrEvaluate inp session = .ok decision) :
    (∃ soakEnds, session.soakEndsAtUtc = some soakEnds ∧ inp.nowUtc < soakEnds ∧
      Waits decision) ∨ soakingRecheck inp session = .ok decision := by
  unfold soakingDeadlineOrEvaluate at decided
  split at decided
  · cases decided
  · rename_i soakEnds soaks
    by_cases early : inp.nowUtc < soakEnds
    · rw [if_pos early] at decided
      obtain rfl := Except.ok.inj decided
      exact .inl ⟨soakEnds, soaks, early, waits_noOp⟩
    · rw [if_neg early, if_pos qualifies] at decided
      exact .inr decided

/-- A VALID report that qualifies: it is from before the end of the soak, or it rechecks. -/
theorem soakingMoisture_qualified {session : SessionContext} {observation : MoistureObservation}
    (qualifies : postQualifies inp = true) (valid : observation.classification = .valid)
    (decided : soakingMoisture inp session observation = .ok decision) :
    (∃ soakEnds, session.soakEndsAtUtc = some soakEnds ∧
      effectiveAt inp observation < soakEnds ∧ Waits decision) ∨
    soakingRecheck inp session = .ok decision := by
  unfold soakingMoisture at decided
  split at decided
  · cases decided
  · rename_i soakEnds soaks
    by_cases early : effectiveAt inp observation < soakEnds
    · rw [if_pos early] at decided
      obtain rfl := Except.ok.inj decided
      exact .inl ⟨soakEnds, soaks, early, ⟨by simp, ⟨rfl, rfl⟩, .inr rfl, by simp⟩⟩
    · rw [if_neg early, if_neg (by simp [valid]), if_neg (by simp [valid]), if_pos qualifies]
        at decided
      exact .inr decided

/-- A recheck of a soil below the target goes on to the next pulse, waits for the slot, or
ends the session with the first exhausted limit. -/
theorem decide_recheck {session : SessionContext} {value : Moisture}
    (soaking : inp.state = .soaking) (held : inp.session = some session)
    (uncommitted : session.pendingTerminationReason = none) (rechecks : Rechecks inp)
    (qualifies : postQualifies inp = true) (observed : inp.observation.value = some value)
    (dry : value < inp.config.targetThreshold) (decided : decide inp = .ok decision) :
    RecheckOutcome inp session decision := by
  have fresh : inp.observation.classification = .valid := by
    have fresh := freshValid_of_postQualifies qualifies
    simp only [freshValid, Bool.and_eq_true, beq_iff_eq] at fresh
    exact fresh.1
  have recheck : soakingRecheck inp session = .ok decision → RecheckOutcome inp session decision :=
    soakingRecheck_outcome observed dry
  -- The three events whose time is the clock.
  have deadline : (∀ soakEnds, session.soakEndsAtUtc = some soakEnds → inp.nowUtc < soakEnds →
      BeforeSoakEnd inp session) → soakingDeadlineOrEvaluate inp session = .ok decision →
      RecheckOutcome inp session decision := by
    intro before decided
    obtain ⟨soakEnds, soaks, early, waits⟩ | rechecked :=
      soakingDeadlineOrEvaluate_qualified qualifies decided
    · exact .waits (before soakEnds soaks early) waits
    · exact recheck rechecked
  rcases rechecks with event | event | event | event | event <;>
    simp only [decide, event, soaking, decideSoaking, held, uncommitted, Option.isSome_none,
      Bool.false_eq_true, if_false] at decided
  · exact deadline (fun soakEnds soaks early => ⟨soakEnds, soaks, by simpa [event]⟩) decided
  · exact deadline (fun soakEnds soaks early => ⟨soakEnds, soaks, by simpa [event]⟩) decided
  · exact deadline (fun soakEnds soaks early => ⟨soakEnds, soaks, by simpa [event]⟩) decided
  · simp only [soakingGrace, if_pos qualifies] at decided
    exact recheck decided
  · obtain ⟨soakEnds, soaks, early, waits⟩ | rechecked :=
      soakingMoisture_qualified qualifies fresh decided
    · exact .waits ⟨soakEnds, soaks, by simpa [event]⟩ waits
    · exact recheck rechecked

/-- The guards that a recheck has passed when it leads to the next pulse. -/
theorem passed_of_soakingRecheck {session : SessionContext}
    (starts : turnOn ∈ decision.actions)
    (decided : soakingRecheck inp session = .ok decision) :
    session.cycle < inp.config.maxCycles ∧ sessionFits inp session = true ∧
      dailyFits inp = true := by
  unfold soakingRecheck at decided
  split at decided
  · cases decided
  · rename_i value _
    simp only at decided
    split at decided
    · obtain rfl := Except.ok.inj decided
      simp [finalizeSoakingCompletion] at starts
    · split at decided
      · obtain rfl := Except.ok.inj decided
        simp [finalizeSoakingCompletion] at starts
      · rename_i cycles
        split at decided
        · obtain rfl := Except.ok.inj decided
          simp [finalizeSoakingCompletion] at starts
        · rename_i fits
          split at decided
          · obtain rfl := Except.ok.inj decided
            simp [finalizeSoakingCompletion] at starts
          · rename_i daily
            exact ⟨by simpa using cycles, by simpa [sessionFits] using fits, by simpa using daily⟩

/-- With a valid configuration every automatic pulse starts within its budgets. -/
theorem PulseStart.budgeted {session : SessionContext} (valid : inp.config.validationErrors = [])
    (start : PulseStart inp decision) (starts : turnOn ∈ decision.actions)
    (started : decision.session = some session) (auto : session.mode = .auto) :
    PulseBudgeted inp session := by
  cases start with
  | first reportedAt identity idle _ _ _ _ evaluated first =>
    obtain rfl := Option.some.inj (first.session.symm.trans started)
    obtain ⟨-, -, daily⟩ := passed_of_evaluateAutoStart evaluated starts
    exact
      { fitsSession := by simpa [firstSession] using pulse_of_valid valid
        fitsDay := by simpa [dailyFits] using daily
        cycles := ⟨le_refl 1, cycles_of_valid valid⟩
        counted := .inl ⟨idle, rfl⟩ }
  | next before reportedAt value soaking held _ _ _ _ rechecked next =>
    obtain rfl := Option.some.inj (next.session.symm.trans started)
    obtain ⟨cycles, fits, daily⟩ := passed_of_soakingRecheck starts rechecked
    exact
      { fitsSession := by simpa [nextSession, sessionFits] using fits
        fitsDay := by simpa [dailyFits] using daily
        cycles := ⟨by simp [nextSession], by simpa [nextSession] using cycles⟩
        counted := .inr ⟨before, held, soaking, rfl, rfl⟩ }
  | manual requested row identity _ _ _ manual =>
    obtain rfl := Option.some.inj (manual.session.symm.trans started)
    cases auto

theorem SessionChange.mode_cycle {before after : SessionContext}
    (change : SessionChange inp decision before after) :
    after.mode = before.mode ∧ after.cycle = before.cycle := by
  cases change <;> exact ⟨rfl, rfl⟩

/-- Only T6 of an automatic session leads to SOAKING. -/
theorem SessionChange.soaking {before after : SessionContext}
    (change : SessionChange inp decision before after)
    (soaks : decision.newState.getD inp.state = .soaking) :
    inp.state = .soaking ∨ before.mode = .auto := by
  cases change with
  | soaked _ auto => exact .inr auto
  | confirmed state _ _ same | committed state _ _ same | recovering state _ same =>
    simp [same, state] at soaks
  | refreshed _ _ _ same => simp [same] at soaks
  | unproven _ _ same => simp [same] at soaks
  | rechecked state | interfered state | adopted state => exact .inl state

/-- The cycle stays within its bound. -/
theorem cycleBounded_rule (valid : config.validationErrors = []) :
    SessionRule (fun inp => inp.config = config) (CycleBounded config) where
  starts := by
    rintro inp decision session rfl - before start started
    refine ⟨fun auto => ?_, by simp⟩
    exact (start.budgeted valid (turnOn_of_pulseStart start) started auto).cycles
  changes := by
    rintro inp decision before after - ⟨bounded, soaks⟩ change
    obtain ⟨mode, cycle⟩ := change.mode_cycle
    rw [CycleBounded, mode, cycle]
    refine ⟨bounded, fun soaking => ?_⟩
    rcases change.soaking soaking with state | auto
    · exact soaks state
    · exact auto
  rests := fun ⟨bounded, _⟩ _ away => ⟨bounded, fun soaking => absurd soaking away⟩
  estimated := fun holds => holds
  commanded := fun _ holds _ => holds
  failed := fun ⟨bounded, _⟩ => ⟨bounded, by simp⟩

end StateMachine

/-! ## A zone with its pulses counted -/

/-- A zone with the number of pulses its session has started. -/
structure CountedZone where
  zone : Zone
  pulses : Nat
  deriving DecidableEq, Repr

namespace CountedZone

/-- The pulses after a step: a decision that requests ON starts the next pulse of a soak, or
the first one of a new session. -/
def count (pulses : Nat) (label : ZoneLabel) : Nat :=
  match label.input with
  | none => pulses
  | some input =>
    match StateMachine.decide input with
    | .error _ => pulses
    | .ok decision =>
      if turnOn ∈ decision.actions then (if input.state = .soaking then pulses + 1 else 1)
      else pulses

def step (counted : CountedZone) (label : ZoneLabel) : Option CountedZone :=
  (counted.zone.step label).map fun zone =>
    { zone := zone, pulses := count counted.pulses label }

def system : LabelledSystem CountedZone ZoneLabel := ⟨step⟩

/-- Every decision sees the same configuration. -/
def FixedConfig (config : ZoneConfig) (counted : CountedZone) (label : ZoneLabel)
    (next : CountedZone) : Prop :=
  counted.zone.Decides (fun input => input.config = config) label next.zone

/-- The cycle of an automatic session is the number of its pulses. -/
def Counts (counted : CountedZone) : Prop :=
  counted.zone.Holds fun _ session => session.mode = .auto → session.cycle = counted.pulses

/-- What is known of a zone and of the pulses of its session. -/
structure Budgeted (config : ZoneConfig) (counted : CountedZone) : Prop where
  bounded : counted.zone.Holds (StateMachine.CycleBounded config)
  counts : counted.Counts

variable {counted next start finish : CountedZone} {label : ZoneLabel} {config : ZoneConfig}

theorem counts_rule (pulses : Nat) :
    SessionRule (fun inp => ∀ decision, StateMachine.decide inp = .ok decision →
      turnOn ∉ decision.actions) fun _ session => session.mode = .auto → session.cycle = pulses where
  starts silent decided _ start _ :=
    absurd (StateMachine.turnOn_of_pulseStart start) (silent _ decided)
  changes _ holds change := by
    obtain ⟨mode, cycle⟩ := change.mode_cycle
    rw [mode, cycle]
    exact holds
  rests holds _ _ := holds
  estimated holds := holds
  commanded _ holds _ := holds
  failed holds := holds

/-- The session that a decision has just started counts its first or its next pulse. -/
theorem counts_started {zone : Zone} {input : TransitionInput} {decision : Decision}
    {pulses : Nat} {session : SessionContext}
    (counts : zone.Holds fun _ session => session.mode = .auto → session.cycle = pulses)
    (held : input.session = zone.session) (start : StateMachine.PulseStart input decision)
    (started : decision.session = some session) (auto : session.mode = .auto) :
    session.cycle = if input.state = .soaking then pulses + 1 else 1 := by
  cases start with
  | first reportedAt identity idle _ _ _ _ _ first =>
    obtain rfl := Option.some.inj (first.session.symm.trans started)
    simp [idle, StateMachine.firstSession]
  | next before reportedAt value soaking held' _ _ _ _ _ next =>
    obtain rfl := Option.some.inj (next.session.symm.trans started)
    rw [if_pos soaking, ← counts before (held.symm.trans held') auto]
    rfl
  | manual requested row identity _ _ _ manual =>
    obtain rfl := Option.some.inj (manual.session.symm.trans started)
    cases auto

theorem started_of_pulseStart {input : TransitionInput} {decision : Decision}
    (start : StateMachine.PulseStart input decision) :
    ∃ session, decision.session = some session ∧ decision.noOp = false := by
  cases start with
  | first _ _ _ _ _ _ _ _ started => exact ⟨_, started.session, started.acts⟩
  | next _ _ _ _ _ _ _ _ _ _ started => exact ⟨_, started.session, started.acts⟩
  | manual _ _ _ _ _ _ started => exact ⟨_, started.session, started.acts⟩

theorem Counts.decideWith {zone : Zone} {input : TransitionInput} {decision : Decision}
    {pulses : Nat} {goOn : Zone → Decision → Zone}
    (counts : zone.Holds fun _ session => session.mode = .auto → session.cycle = pulses)
    (feeds : zone.Feeds input) (decided : StateMachine.decide input = .ok decision)
    (starts : turnOn ∈ decision.actions)
    (adopts : ∀ decision session, decision.session = some session →
      ∀ left, (goOn zone decision).session = some left → left = session) :
    (zone.decideWith input goOn).Holds fun _ session => session.mode = .auto →
      session.cycle = if input.state = .soaking then pulses + 1 else 1 := by
  have start := StateMachine.decide_start decided starts
  obtain ⟨session, started, acts⟩ := started_of_pulseStart start
  intro left held auto
  have same : zone.decideWith input goOn = goOn zone decision := by
    simp [Zone.decideWith, decided, acts]
  rw [same] at held
  obtain rfl := adopts decision session started left held
  exact counts_started counts feeds.2.2.1 start started auto

theorem Counts.step (counts : counted.Counts) (stepped : counted.step label = some next) :
    next.Counts := by
  obtain ⟨zone, moved, rfl⟩ := Option.map_eq_some_iff.mp stepped
  by_cases silent : ∀ input, label.input = some input → ∀ decision,
      StateMachine.decide input = .ok decision → turnOn ∉ decision.actions
  · have same : count counted.pulses label = counted.pulses := by
      unfold count
      split
      · rfl
      · split
        · rfl
        · rename_i decides _ decision decided
          exact if_neg (silent _ decides decision decided)
    simp only [Counts, same]
    exact counts.step (counts_rule counted.pulses) moved silent
  · push Not at silent
    obtain ⟨input, decides, decision, decided, starts⟩ := silent
    simp only [Counts, count, decides, decided, if_pos starts]
    cases label with
    | decide input' =>
      obtain rfl := Option.some.inj decides
      obtain ⟨⟨feeds, -⟩, same⟩ := Option.ite_none_right_eq_some.mp moved
      obtain rfl := Option.some.inj same
      refine Counts.decideWith counts feeds decided starts fun decision session started left held => ?_
      simp only [Zone.adopt, started, Option.some_or] at held
      split at held
      · cases held
      · exact (Option.some.inj held).symm
    | setEnabled enabled input' =>
      -- A request for the flag starts nothing.
      obtain rfl := Option.some.inj decides
      obtain ⟨⟨-, toggled⟩, -⟩ := Option.ite_none_right_eq_some.mp moved
      cases StateMachine.decide_effect decided with
      | starts _ _ _ _ _ allowed =>
        cases enabled <;> simp [StateMachine.StartsAllowed, toggled, toggleEvent,
          StateMachine.mayStart] at allowed
      | clears _ _ _ silent => exact absurd starts silent
      | updates _ _ _ _ _ _ _ silent => exact absurd starts silent
      | keeps _ _ silent => exact absurd starts silent
    | compensate input' =>
      obtain rfl := Option.some.inj decides
      simp only [Zone.step] at moved
      split at moved
      · cases moved
      · obtain ⟨⟨feeds, -⟩, same⟩ := Option.ite_none_right_eq_some.mp moved
        obtain rfl := Option.some.inj same
        refine Counts.decideWith (counts.markEstimated (counts_rule counted.pulses)) feeds decided
          starts fun decision session started left held => ?_
        simp only [Zone.commit, started, Option.some_or] at held
        exact (Option.some.inj held).symm
    | commanded | writeFailed => cases decides

theorem Budgeted.step (valid : config.validationErrors = []) (budgeted : counted.Budgeted config)
    (stepped : counted.step label = some next) (fixed : FixedConfig config counted label next) :
    next.Budgeted config := by
  obtain ⟨bounded, counts⟩ := budgeted
  refine ⟨?_, counts.step stepped⟩
  obtain ⟨zone, moved, rfl⟩ := Option.map_eq_some_iff.mp stepped
  exact bounded.step (StateMachine.cycleBounded_rule valid) moved fixed

/-- In every run under one valid configuration: an automatic session is within its cycles,
which are its pulses; the next pulse it starts is within its budgets; and a recheck below
the target ends it with the first exhausted limit, unless it goes on or waits. -/
theorem budgets_of_run (valid : config.validationErrors = [])
    (reached : system.Run (FixedConfig config) start finish) (budgeted : start.Budgeted config) :
    (∀ session, finish.zone.session = some session → session.mode = .auto →
      1 ≤ session.cycle ∧ session.cycle ≤ config.maxCycles ∧ finish.pulses = session.cycle) ∧
    (∀ input decision session, finish.zone.Feeds input → input.config = config →
      StateMachine.decide input = .ok decision → turnOn ∈ decision.actions →
      decision.session = some session → session.mode = .auto →
      StateMachine.PulseBudgeted input session) ∧
    (∀ input decision session value, finish.zone.Feeds input → input.config = config →
      StateMachine.decide input = .ok decision → finish.zone.state = .soaking →
      finish.zone.session = some session → session.pendingTerminationReason = none →
      StateMachine.Rechecks input → StateMachine.postQualifies input = true →
      input.observation.value = some value → value < config.targetThreshold →
      StateMachine.RecheckOutcome input session decision) := by
  have sound : finish.Budgeted config := reached.preserves budgeted
    fun _ _ _ held stepped fixed => held.step valid stepped fixed
  refine ⟨fun session held auto => ?_, fun input decision session feeds same decided starts
    started auto => ?_, fun input decision session value feeds same decided soaking held
    uncommitted rechecks qualifies observed dry => ?_⟩
  · obtain ⟨least, most⟩ := (sound.bounded session held).1 auto
    exact ⟨least, most, (sound.counts session held auto).symm⟩
  · have valid' : input.config.validationErrors = [] := by
      rw [same]
      exact valid
    exact StateMachine.PulseStart.budgeted valid' (StateMachine.decide_start decided starts) starts
      started auto
  · have dry' : value < input.config.targetThreshold := by
      rw [same]
      exact dry
    have soaking' : input.state = .soaking := feeds.1.trans soaking
    have held' : input.session = some session := feeds.2.2.1.trans held
    exact StateMachine.decide_recheck soaking' held' uncommitted rechecks qualifies observed dry'
      decided

/-- An event at an instant, with a fresh dry reading. -/
def sampleLabel (counted : CountedZone) (atUtc : Instant) (event : ControllerEvent) : ZoneLabel :=
  .decide { counted.zone.sampleInput event with
    nowUtc := atUtc
    observation := ⟨some 10, .valid, some atUtc⟩ }

def sampleRun (counted : CountedZone) : List (Instant × ControllerEvent) → Option CountedZone
  | [] => some counted
  | (atUtc, event) :: rest =>
    (counted.step (counted.sampleLabel atUtc event)).bind (sampleRun · rest)

theorem run_of_sampleRun {events : List (Instant × ControllerEvent)}
    (executed : counted.sampleRun events = some finish) :
    system.Run (FixedConfig (sampleConfig "sensor.soil" "switch.a")) counted finish := by
  induction events generalizing counted with
  | nil =>
    obtain rfl := Option.some.inj executed
    exact .refl
  | cons event rest inductionHypothesis =>
    obtain ⟨atUtc, event⟩ := event
    obtain ⟨next, stepped, executed⟩ := Option.bind_eq_some_iff.mp executed
    have stepped : system.step counted (counted.sampleLabel atUtc event) = some next := stepped
    refine .head stepped ?_ (inductionHypothesis executed)
    rintro input decides
    obtain rfl := Option.some.inj decides
    rfl

/-- A zone at rest starts a session, soaks after its first pulse, and starts the second. -/
theorem budgets_of_run_secondPulse :
    ∃ finish session,
      sampleRun ⟨Zone.atRest, 0⟩ [(100, .autoEvaluate), (160, .offConfirmed 160),
        (4000, .soakDeadlineReached)] = some finish ∧
      finish.zone.session = some session ∧ session.mode = .auto ∧ finish.pulses = 2 ∧
      1 ≤ session.cycle ∧ session.cycle ≤ (sampleConfig "sensor.soil" "switch.a").maxCycles ∧
      finish.pulses = session.cycle := by
  obtain ⟨finish, executed, ends⟩ := (Option.any_eq_true _ _).mp
    (show ((sampleRun ⟨Zone.atRest, 0⟩ [(100, .autoEvaluate), (160, .offConfirmed 160),
      (4000, .soakDeadlineReached)]).any fun finish =>
        decide (finish.pulses = 2) &&
          finish.zone.session.any fun session => session.mode = .auto) = true by decide +kernel)
  obtain ⟨twice, started⟩ := Bool.and_eq_true_iff.mp ends
  obtain ⟨session, held, auto⟩ := (Option.any_eq_true _ _).mp started
  have budgets := budgets_of_run (by decide +kernel) (run_of_sampleRun executed)
    ⟨by simp [Zone.Holds, Zone.atRest], by simp [Counts, Zone.Holds, Zone.atRest]⟩
  have auto : session.mode = .auto := of_decide_eq_true auto
  exact ⟨finish, session, executed, held, auto, of_decide_eq_true twice,
    budgets.1 session held auto⟩

end CountedZone

end MoistureLoop
