import MoistureLoop.ConfigFlow.Validation
import MoistureLoop.Foundations.Guarded

/-! # Interleaved zone flows

Any number of `ZoneSubentryFlow`s, adding and reconfiguring zones of one entry while Home
Assistant changes under them.  A label is what happens between two suspensions: a form that
is submitted, or the end of the preparation that a reconfiguration waits for.  A step that
raises leaves its flow at the form it was at. -/

namespace MoistureLoop

/-! ## One flow -/

/-- The form a flow shows; both kinds of flow ask in this order. -/
inductive ZoneForm where
  | identity | thresholds | limits
  deriving DecidableEq, Repr

inductive FlowPhase where
  | asking (form : ZoneForm)
  /-- The candidate is accepted; `async_prepare_reconfigure` has not returned. -/
  | preparing (candidate : ZoneData)
  | ended
  deriving DecidableEq, Repr

/-- One flow.  `_data` is filled form by form, so it is kept by form. -/
structure ZoneSubentryFlow where
  /-- The subentry that is reconfigured; none adds a zone. -/
  reconfigures : Option String := none
  identity : Option IdentityInput := none
  thresholds : Option ThresholdsInput := none
  limits : Option LimitsInput := none
  sharedSensorWarning : Bool := false
  errors : FlowErrors := []
  phase : FlowPhase := .ended
  deriving DecidableEq, Repr

namespace ZoneSubentryFlow

def candidateInPreparation (flow : ZoneSubentryFlow) : Option ZoneData :=
  match flow.phase with
  | .preparing candidate => some candidate
  | _ => none

def toAdd : ZoneSubentryFlow := { phase := .asking .identity }

def toReconfigure (subentryId : String) (data : ZoneData) : ZoneSubentryFlow where
  reconfigures := some subentryId
  identity := some data.identity
  thresholds := some data.thresholds
  limits := some data.limits
  phase := .asking .identity

/-- The candidate that the last form completes. -/
def candidate (flow : ZoneSubentryFlow) (input : LimitsInput) : Option ZoneData :=
  match flow.identity, flow.thresholds with
  | some identity, some thresholds => some (ZoneData.normalize ⟨identity, thresholds, input⟩)
  | _, _ => none

section Answers

variable (casefold : String → String) (hass : FlowHass) (others : List ZoneData)

/-- `async_step_user` and `async_step_reconfigure` with an answer. -/
def answerIdentity (flow : ZoneSubentryFlow) (input : IdentityInput) : ZoneSubentryFlow :=
  let errors := validateIdentity casefold hass others input flow.reconfigures
  let warned := { flow with
    sharedSensorWarning := sharesSensor hass others input.moistureSensor
    errors := errors }
  if errors = [] then { warned with identity := some input, phase := .asking .thresholds }
  else warned

/-- `async_step_thresholds` and `async_step_reconfigure_thresholds` with an answer. -/
def answerThresholds (flow : ZoneSubentryFlow) (input : ThresholdsInput) : ZoneSubentryFlow :=
  let errors := validatePartial input
  if errors = [] then
    { flow with thresholds := some input, errors := errors, phase := .asking .limits }
  else { flow with errors := errors }

end Answers

end ZoneSubentryFlow

/-! ## The entry and its flows -/

structure ZoneEntry (φ : Type) where
  hass : FlowHass
  subentries : Dict String ZoneSubentry
  flows : φ → ZoneSubentryFlow

inductive FlowLabel (φ : Type) where
  | add (flow : φ)
  | reconfigure (flow : φ) (subentryId : String)
  | identity (flow : φ) (input : IdentityInput)
  | thresholds (flow : φ) (input : ThresholdsInput)
  /-- The last form, with the ID that Core would give a new subentry. -/
  | limits (flow : φ) (input : LimitsInput) (created : String)
  /-- The preparation of a reconfiguration returns, or raises. -/
  | prepared (flow : φ) (raised : Bool)
  | removed (subentryId : String)
  | hassChanged (hass : FlowHass)

def FlowLabel.flow? {φ : Type} : FlowLabel φ → Option φ
  | .add flow | .reconfigure flow _ | .identity flow _ | .thresholds flow _ | .limits flow _ _
  | .prepared flow _ => some flow
  | .removed _ | .hassChanged _ => none

namespace ZoneEntry

variable {φ : Type} [DecidableEq φ] (casefold : String → String)

def setFlow (entry : ZoneEntry φ) (flow : φ) (answered : ZoneSubentryFlow) : ZoneEntry φ :=
  { entry with flows := Function.update entry.flows flow answered }

def others (entry : ZoneEntry φ) (flow : ZoneSubentryFlow) : List ZoneData :=
  otherZones entry.subentries flow.reconfigures

/-- `_get_reconfigure_subentry` would not raise. -/
def hasSubject (entry : ZoneEntry φ) (flow : ZoneSubentryFlow) : Bool :=
  flow.reconfigures.all fun subentryId => (entry.subentries.get? subentryId).isSome

/-- `async_step_limits` and `async_step_reconfigure_limits` with a candidate. -/
def submit (entry : ZoneEntry φ) (flow : φ) (candidate : ZoneData) (created : String) :
    Option (ZoneEntry φ) :=
  let asked := entry.flows flow
  let errors := validateFull casefold entry.hass (entry.others asked) candidate asked.reconfigures
  let warned := { asked with
    sharedSensorWarning :=
      sharesSensor entry.hass (entry.others asked) candidate.identity.moistureSensor
    errors := errors }
  if errors ≠ [] then some (entry.setFlow flow warned)
  else
    match asked.reconfigures with
    | none =>
      if created = "" ∨ created ∈ entry.subentries.keys then none
      else
        some { entry.setFlow flow { warned with phase := .ended } with
          subentries :=
            entry.subentries.set created ⟨"zone", candidate.identity.name, candidate⟩ }
    | some subentryId =>
      (entry.subentries.get? subentryId).map fun subentry =>
        -- a candidate that changes nothing does not reach Core
        if candidate = subentry.data.normalize then
          entry.setFlow flow { warned with phase := .ended }
        else entry.setFlow flow { warned with phase := .preparing candidate }

/-- `async_update_and_abort`, once the preparation has returned. -/
def update (entry : ZoneEntry φ) (flow : φ) (candidate : ZoneData) : ZoneEntry φ :=
  let asked := entry.flows flow
  match asked.reconfigures.bind fun subentryId =>
      (entry.subentries.get? subentryId).map fun subentry => (subentryId, subentry) with
  | none => entry.setFlow flow { asked with phase := .asking .limits }
  | some (subentryId, subentry) =>
    { entry.setFlow flow { asked with phase := .ended } with
      subentries := entry.subentries.set subentryId
        { subentry with title := candidate.identity.name, data := candidate } }

def step (entry : ZoneEntry φ) : FlowLabel φ → Option (ZoneEntry φ)
  | .add flow => some (entry.setFlow flow .toAdd)
  | .reconfigure flow subentryId =>
    match entry.subentries.get? subentryId with
    | some subentry =>
      if subentry.subentryType = "zone" then
        some (entry.setFlow flow (.toReconfigure subentryId subentry.data))
      else none
    | none => none
  | .identity flow input =>
    let asked := entry.flows flow
    if asked.phase = .asking .identity ∧ entry.hasSubject asked then
      some (entry.setFlow flow
        (asked.answerIdentity casefold entry.hass (entry.others asked) input))
    else none
  | .thresholds flow input =>
    let asked := entry.flows flow
    if asked.phase = .asking .thresholds then
      some (entry.setFlow flow (asked.answerThresholds input))
    else none
  | .limits flow input created =>
    if (entry.flows flow).phase = .asking .limits ∧ entry.hasSubject (entry.flows flow) then
      ((entry.flows flow).candidate input).bind fun candidate =>
        entry.submit casefold flow candidate created
    else none
  | .prepared flow raised =>
    (entry.flows flow).candidateInPreparation.map fun candidate =>
      if raised then entry.setFlow flow { entry.flows flow with phase := .asking .limits }
      else entry.update flow candidate
  | .removed subentryId => some { entry with subentries := entry.subentries.erase subentryId }
  | .hassChanged hass => some { entry with hass := hass }

def system : LabelledSystem (ZoneEntry φ) (FlowLabel φ) := ⟨ZoneEntry.step casefold⟩

/-! ## What one step does -/

/-- What a step can do to the zones and to the candidates in preparation. -/
inductive Moved (entry : ZoneEntry φ) (flow? : Option φ) (next : ZoneEntry φ) : Prop where
  /-- No zone changes, and no candidate is accepted. -/
  | answered : next.subentries = entry.subentries →
      (∀ flow, next.flows flow = entry.flows flow ∨
        (next.flows flow).candidateInPreparation = none) → Moved entry flow? next
  | removed (subentryId : String) : next.subentries = entry.subentries.erase subentryId →
      next.flows = entry.flows → Moved entry flow? next
  | created (flow : φ) (candidate : ZoneData) (subentryId : String) : flow? = some flow →
      candidate.normalize = candidate →
      validateFull casefold entry.hass (otherZones entry.subentries none) candidate none = [] →
      subentryId ≠ "" → subentryId ∉ entry.subentries.keys →
      next.subentries =
        entry.subentries.set subentryId ⟨"zone", candidate.identity.name, candidate⟩ →
      (∀ other, other ≠ flow → next.flows other = entry.flows other) →
      (next.flows flow).candidateInPreparation = none → Moved entry flow? next
  | accepted (flow : φ) (candidate : ZoneData) (subentryId : String) :
      candidate.normalize = candidate →
      validateFull casefold entry.hass (otherZones entry.subentries (some subentryId)) candidate
        (some subentryId) = [] →
      next.subentries = entry.subentries →
      (∀ other, other ≠ flow → next.flows other = entry.flows other) →
      (next.flows flow).candidateInPreparation = some candidate →
      (next.flows flow).reconfigures = some subentryId → Moved entry flow? next
  | updated (flow : φ) (candidate : ZoneData) (subentryId : String) (subentry : ZoneSubentry) :
      flow? = some flow → (entry.flows flow).candidateInPreparation = some candidate →
      (entry.flows flow).reconfigures = some subentryId →
      entry.subentries.get? subentryId = some subentry →
      next.subentries = entry.subentries.set subentryId
        { subentry with title := candidate.identity.name, data := candidate } →
      (∀ other, other ≠ flow → next.flows other = entry.flows other) →
      (next.flows flow).candidateInPreparation = none → Moved entry flow? next

variable {casefold} {entry next : ZoneEntry φ} {flow : φ}

/-- A flow that is given a phase without a candidate. -/
theorem Moved.of_setFlow {flow? : Option φ} {answered : ZoneSubentryFlow}
    (none : answered.candidateInPreparation = none) :
    Moved casefold entry flow? (entry.setFlow flow answered) := by
  refine .answered rfl fun other => ?_
  by_cases same : other = flow
  · right
    subst same
    simpa [setFlow] using none
  · left
    simp [setFlow, same]

theorem candidateInPreparation_of_asking {asked : ZoneSubentryFlow} {form : ZoneForm}
    (asking : asked.phase = .asking form) : asked.candidateInPreparation = none := by
  simp [ZoneSubentryFlow.candidateInPreparation, asking]

theorem submit_moved {candidate : ZoneData} {created : String}
    (asking : (entry.flows flow).candidateInPreparation = none)
    (normal : candidate.normalize = candidate)
    (submitted : entry.submit casefold flow candidate created = some next) :
    Moved casefold entry (some flow) next := by
  simp only [submit] at submitted
  split at submitted
  · obtain rfl := Option.some.inj submitted
    exact .of_setFlow asking
  · rename_i accepted
    have accepted := not_not.mp accepted
    split at submitted
    · rename_i adds
      split at submitted
      · cases submitted
      · rename_i fresh
        obtain rfl := Option.some.inj submitted
        obtain ⟨named, absent⟩ := not_or.mp fresh
        rw [others, adds] at accepted
        refine .created flow candidate created rfl normal accepted named absent rfl ?_ ?_
        · intro other differs
          simp [setFlow, differs]
        · simp [setFlow, ZoneSubentryFlow.candidateInPreparation]
    · rename_i subentryId reconfigures
      obtain ⟨subentry, -, chosen⟩ := Option.map_eq_some_iff.mp submitted
      split at chosen
      · subst chosen
        exact .of_setFlow rfl
      · subst chosen
        rw [others, reconfigures] at accepted
        refine .accepted flow candidate subentryId normal accepted rfl ?_ ?_ ?_
        · intro other differs
          simp [setFlow, differs]
        · simp [setFlow, ZoneSubentryFlow.candidateInPreparation]
        · simpa [setFlow] using reconfigures

theorem update_moved {candidate : ZoneData}
    (preparing : (entry.flows flow).candidateInPreparation = some candidate) :
    Moved casefold entry (some flow) (entry.update flow candidate) := by
  simp only [update]
  split
  · exact .of_setFlow rfl
  · rename_i subentryId subentry found
    obtain ⟨reconfigured, subject, found⟩ := Option.bind_eq_some_iff.mp found
    obtain ⟨_, present, same⟩ := Option.map_eq_some_iff.mp found
    obtain ⟨rfl, rfl⟩ := Prod.mk.inj same
    refine .updated flow candidate _ _ rfl preparing subject present rfl ?_ ?_
    · intro other differs
      simp [setFlow, differs]
    · simp [setFlow, ZoneSubentryFlow.candidateInPreparation]

theorem normalize_of_candidate {asked : ZoneSubentryFlow} {input : LimitsInput}
    {candidate : ZoneData} (completes : asked.candidate input = some candidate) :
    candidate.normalize = candidate := by
  unfold ZoneSubentryFlow.candidate at completes
  split at completes
  · obtain rfl := Option.some.inj completes
    exact ZoneData.normalize_normalize _
  · cases completes

theorem step_moved {label : FlowLabel φ} (stepped : entry.step casefold label = some next) :
    Moved casefold entry label.flow? next := by
  cases label with
  | add flow =>
    obtain rfl := Option.some.inj stepped
    exact .of_setFlow rfl
  | reconfigure flow subentryId =>
    simp only [step] at stepped
    split at stepped
    · obtain ⟨-, same⟩ := Option.ite_none_right_eq_some.mp stepped
      obtain rfl := Option.some.inj same
      exact .of_setFlow rfl
    · cases stepped
  | identity flow input =>
    obtain ⟨⟨asking, -⟩, same⟩ := Option.ite_none_right_eq_some.mp stepped
    obtain rfl := Option.some.inj same
    refine .of_setFlow ?_
    simp only [ZoneSubentryFlow.answerIdentity]
    split
    · rfl
    · exact candidateInPreparation_of_asking asking
  | thresholds flow input =>
    obtain ⟨asking, same⟩ := Option.ite_none_right_eq_some.mp stepped
    obtain rfl := Option.some.inj same
    refine .of_setFlow ?_
    simp only [ZoneSubentryFlow.answerThresholds]
    split
    · rfl
    · exact candidateInPreparation_of_asking asking
  | limits flow input created =>
    obtain ⟨⟨asking, -⟩, submitted⟩ := Option.ite_none_right_eq_some.mp stepped
    obtain ⟨candidate, completes, submitted⟩ := Option.bind_eq_some_iff.mp submitted
    exact submit_moved (candidateInPreparation_of_asking asking)
      (normalize_of_candidate completes) submitted
  | prepared flow raised =>
    obtain ⟨candidate, preparing, chosen⟩ := Option.map_eq_some_iff.mp stepped
    split at chosen
    · subst chosen
      exact .of_setFlow rfl
    · subst chosen
      exact update_moved preparing
  | removed subentryId =>
    obtain rfl := Option.some.inj stepped
    exact .removed subentryId rfl rfl
  | hassChanged hass =>
    obtain rfl := Option.some.inj stepped
    exact .answered rfl fun _ => .inl rfl

end ZoneEntry

end MoistureLoop
