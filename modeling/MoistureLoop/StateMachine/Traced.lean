import MoistureLoop.StateMachine.SessionChange

/-! # A zone with a history of its decisions

What a session has done before is not in the session.  A history is kept next to the zone,
written by every decision that is applied; what it says of the session the zone is in is
proved from one rule, whose pieces are the ways a decision changes the session. -/

open MoistureLoop.Action

namespace MoistureLoop

/-- A zone with what its decisions have recorded. -/
structure TracedZone (History : Type) where
  zone : Zone
  history : History

abbrev DecisionRecorder (History : Type) := History → TransitionInput → Decision → History

namespace TracedZone

variable {History : Type}

def trace (record : DecisionRecorder History) (history : History) (label : ZoneLabel) : History :=
  match label.input with
  | none => history
  | some input =>
    match StateMachine.decide input with
    | .error _ => history
    | .ok decision => if decision.noOp then history else record history input decision

def step (record : DecisionRecorder History) (traced : TracedZone History) (label : ZoneLabel) :
    Option (TracedZone History) :=
  (traced.zone.step label).map fun zone =>
    { zone := zone, history := trace record traced.history label }

def system (record : DecisionRecorder History) : LabelledSystem (TracedZone History) ZoneLabel :=
  ⟨step record⟩

/-- The inputs on which the steps of a run decide are all allowed. -/
def Decides (allowed : History → TransitionInput → Prop) (traced : TracedZone History)
    (label : ZoneLabel) (_ : TracedZone History) : Prop :=
  ∀ input, label.input = some input → allowed traced.history input

/-- The property holds of the history and the session the zone is in, if it is in one. -/
def Holds (property : History → ControllerState → SessionContext → Prop)
    (traced : TracedZone History) : Prop :=
  traced.zone.Holds (property traced.history)

end TracedZone

/-- What holds of a history and the session of the zone: the pieces of which the steps of a
zone are made keep it. -/
structure TraceRule {History : Type} (record : DecisionRecorder History)
    (allowed : History → TransitionInput → Prop)
    (property : History → ControllerState → SessionContext → Prop) : Prop where
  starts : ∀ {history : History} {inp : TransitionInput} {decision : Decision}
    {session : SessionContext}, allowed history inp → StateMachine.decide inp = .ok decision →
    (∀ before, inp.session = some before → property history inp.state before) →
    StateMachine.PulseStart inp decision → decision.session = some session →
    property (record history inp decision) .watering session
  changes : ∀ {history : History} {inp : TransitionInput} {decision : Decision}
    {before after : SessionContext}, allowed history inp →
    StateMachine.decide inp = .ok decision → inp.session = some before →
    property history inp.state before → turnOn ∉ decision.actions →
    decision.session = some after → StateMachine.SessionChange inp decision before after →
    property (record history inp decision) (decision.newState.getD inp.state) after
  /-- A decision that leaves the session, or ends it where that is not adopted. -/
  keeps : ∀ {history : History} {inp : TransitionInput} {decision : Decision}
    {session : SessionContext}, allowed history inp → StateMachine.decide inp = .ok decision →
    inp.session = some session → property history inp.state session →
    turnOn ∉ decision.actions → decision.session = none →
    StateMachine.StaysOrRests inp decision → property (record history inp decision) inp.state session
  rests : ∀ {history : History} {state state' : ControllerState} {session : SessionContext},
    property history state session → state' ≠ .watering → state' ≠ .soaking →
    property history state' session
  estimated : ∀ {history : History} {state : ControllerState} {session : SessionContext},
    property history state session → property history state { session with
      runtimeEstimated := true
      runtimeEstimationReason := .offUnconfirmed }
  commanded : ∀ {history : History} {state : ControllerState} {session : SessionContext}
    (atUtc : Instant), property history state session → session.pulseCommandedAtUtc = none →
    property history state { session with pulseCommandedAtUtc := some atUtc }
  failed : ∀ {history : History} {state : ControllerState} {session : SessionContext},
    property history state session → property history .fault { session with
      pendingTerminationReason := session.pendingTerminationReason.or (some .actuatorFault) }

namespace TracedZone

variable {History : Type} {record : DecisionRecorder History}
  {allowed : History → TransitionInput → Prop}
  {property : History → ControllerState → SessionContext → Prop}
  {traced next start finish : TracedZone History} {history : History} {zone : Zone}
  {label : ZoneLabel} {input : TransitionInput} {decision : Decision}

/-- For one history, the pieces between decisions are those of a rule for the session. -/
theorem unrecorded_rule (rule : TraceRule record allowed property) (history : History) :
    SessionRule (fun _ => False) (property history) where
  starts absurd' := absurd'.elim
  changes absurd' := absurd'.elim
  rests := rule.rests
  estimated := rule.estimated
  commanded := rule.commanded
  failed := rule.failed

/-- What a decision leaves in a zone: a started or changed session, or the one it had. -/
theorem holds_decided (rule : TraceRule record allowed property)
    (holds : zone.Holds (property history)) (feeds : zone.Feeds input)
    (permitted : allowed history input) (decided : StateMachine.decide input = .ok decision)
    {session : SessionContext} (left : decision.session.or zone.session = some session)
    (open' : decision.session = none → zone.session = some session) :
    property (record history input decision) (decision.newState.getD zone.state) session := by
  obtain ⟨state, -, same, -⟩ := feeds
  have before : ∀ before, input.session = some before → property history input.state before := by
    rw [state, same]
    exact holds
  -- A session that the decision neither starts nor changes stays, or comes to rest.
  have leaves (none' : decision.session = none) (silent : turnOn ∉ decision.actions)
      (rests : StateMachine.StaysOrRests input decision) :
      property (record history input decision) (decision.newState.getD zone.state) session := by
    have shown : input.session = some session := same.trans (open' none')
    have kept := rule.keeps permitted decided shown (before _ shown) silent none' rests
    rw [StateMachine.StaysOrRests, state] at rests
    rw [state] at kept
    rcases rests with same' | ⟨away, away'⟩
    · rw [same']
      exact kept
    · exact rule.rests kept away away'
  cases StateMachine.decide_outcome decided with
  | starts start =>
    have started : decision.session = some session ∧ decision.newState = some .watering := by
      cases start with
      | first _ _ _ _ _ _ _ _ started | next _ _ _ _ _ _ _ _ _ _ started
      | manual _ _ _ _ _ _ started =>
        rw [started.session] at left ⊢
        exact ⟨by simpa using left, started.newState⟩
    rw [started.2]
    exact rule.starts permitted decided before start started.1
  | changes held changed _ _ silent change =>
    rw [changed, Option.some_or] at left
    obtain rfl := Option.some.inj left
    have kept := rule.changes permitted decided held (before _ held) silent changed change
    rwa [state] at kept
  | ends _ none' _ _ silent rests => exact leaves none' silent rests
  | keeps none' _ _ silent rests => exact leaves none' silent rests

/-- A decision and its record, for what the zone adopts or commits of it. -/
theorem holds_decideWith (rule : TraceRule record allowed property)
    (holds : zone.Holds (property history)) (feeds : zone.Feeds input)
    (permitted : allowed history input) {goOn : Zone → Decision → Zone}
    (state : ∀ decision, (goOn zone decision).state = decision.newState.getD zone.state)
    (session : ∀ decision session, (goOn zone decision).session = some session →
      decision.session.or zone.session = some session)
    (decides : label.input = some input) :
    (zone.decideWith input goOn).Holds (property (trace record history label)) := by
  simp only [trace, decides]
  unfold Zone.decideWith
  cases decided : StateMachine.decide input with
  | error err => exact holds
  | ok decision =>
    simp only
    split
    · exact holds
    · intro left held
      rw [state]
      have shown := session decision left held
      exact holds_decided rule holds feeds permitted decided shown fun none' => by
        simpa [none'] using shown

/-- A step of a zone and its record keep what the rule keeps. -/
theorem Holds.step (rule : TraceRule record allowed property) (holds : traced.Holds property)
    (stepped : traced.step record label = some next)
    (permitted : traced.Decides allowed label next) : next.Holds property := by
  obtain ⟨zone, moved, rfl⟩ := Option.map_eq_some_iff.mp stepped
  have unrecorded := unrecorded_rule rule traced.history
  cases label with
  | decide input =>
    obtain ⟨⟨feeds, -⟩, same⟩ := Option.ite_none_right_eq_some.mp moved
    obtain rfl := Option.some.inj same
    refine holds_decideWith rule holds feeds (permitted _ rfl) (fun _ => rfl) ?_
      (show (ZoneLabel.decide input).input = some input from rfl)
    intro decision session held
    simp only [Zone.adopt] at held
    split at held
    · cases held
    · exact held
  | setEnabled enabled input =>
    obtain ⟨⟨feeds, -⟩, same⟩ := Option.ite_none_right_eq_some.mp moved
    obtain rfl := Option.some.inj same
    have toggled : ({ traced.zone with enabled := enabled } : Zone).Holds
      (property traced.history) := holds
    refine holds_decideWith rule toggled feeds (permitted _ rfl) (fun _ => rfl) ?_
      (show (ZoneLabel.setEnabled enabled input).input = some input from rfl)
    intro decision session held
    simp only [Zone.adopt] at held
    split at held
    · cases held
    · exact held
  | compensate input =>
    simp only [Zone.step] at moved
    split at moved
    · cases moved
    · obtain ⟨⟨feeds, -⟩, same⟩ := Option.ite_none_right_eq_some.mp moved
      obtain rfl := Option.some.inj same
      have marked : traced.zone.markEstimated.Holds (property traced.history) :=
        Zone.Holds.markEstimated unrecorded holds
      exact holds_decideWith rule marked feeds (permitted _ rfl) (fun _ => rfl)
        (fun _ _ held => held) (show (ZoneLabel.compensate input).input = some input from rfl)
  | commanded sessionId atUtc =>
    obtain rfl := Option.some.inj moved
    exact Zone.Holds.recordCommand unrecorded holds sessionId atUtc
  | writeFailed =>
    obtain rfl := Option.some.inj moved
    intro session left
    obtain ⟨before, held, rfl⟩ := Option.map_eq_some_iff.mp left
    exact rule.failed (holds before held)

/-- In a run whose decisions are all allowed, what the rule keeps holds throughout. -/
theorem Holds.of_run (rule : TraceRule record allowed property)
    (reached : (system record).Run (Decides allowed) start finish) (holds : start.Holds property) :
    finish.Holds property :=
  reached.preserves holds fun _ _ _ held stepped permitted => held.step rule stepped permitted

end TracedZone

end MoistureLoop
