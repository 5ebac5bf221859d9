import MoistureLoop.Runtime.Resolution

/-! # Validation of a zone configuration

What `ZoneSubentryFlow` checks before Core stores a zone subentry, and what it stores.  The
answers of a form carry text and numbers as the selectors return them; `normalize` turns them
into the data of a subentry.  `casefold` is the method of `str`. -/

namespace MoistureLoop

/-! ## Text and numbers -/

/-- `str.isspace`, for one character. -/
def isSpace (character : Char) : Bool :=
  let point := character.toNat
  (9 ≤ point && point ≤ 13) || (28 ≤ point && point ≤ 32) || (8192 ≤ point && point ≤ 8202)
    || [133, 160, 5760, 8232, 8233, 8239, 8287, 12288].contains point

/-- `str.strip`. -/
def strip (text : String) : String :=
  String.ofList ((text.toList.dropWhile isSpace).rdropWhile isSpace)

/-- `str.startswith`. -/
def startsWith (text start : String) : Bool := start.toList.isPrefixOf text.toList

/-- `int` of a number: the fraction is dropped. -/
def truncate (number : ℚ) : Int := if 0 ≤ number then ⌊number⌋ else ⌈number⌉

theorem strip_strip (text : String) : strip (strip text) = strip text := by
  simp only [strip, String.toList_ofList]
  congr 1
  -- what is left of the text starts as the text without its leading blanks does
  have leading : ((text.toList.dropWhile isSpace).rdropWhile isSpace).dropWhile isSpace =
      (text.toList.dropWhile isSpace).rdropWhile isSpace := by
    rw [List.dropWhile_eq_self_iff]
    intro filled
    have start := (List.rdropWhile_prefix isSpace (text.toList.dropWhile isSpace)).getElem filled
    rw [start]
    exact List.dropWhile_eq_self_iff.mp (List.dropWhile_idempotent isSpace text.toList) _
  rw [leading, List.rdropWhile_idempotent]

theorem truncate_intCast (number : Int) : truncate number = number := by
  simp [truncate]

/-! ## Answers and subentry data -/

/-- The answers of the `user` and `reconfigure` forms. -/
structure IdentityInput where
  name : String
  moistureSensor : String
  actuator : String
  deriving DecidableEq, Repr

/-- The answers of the `thresholds` forms. -/
structure ThresholdsInput where
  startThreshold : ℚ
  targetThreshold : ℚ
  pulseDuration : ℚ
  soakDuration : ℚ
  deriving DecidableEq, Repr

/-- The answers of the `limits` forms. -/
structure LimitsInput where
  maxCycles : ℚ
  maxSessionRuntime : ℚ
  maxDailyRuntime : ℚ
  minSessionInterval : ℚ
  sensorMaxAge : ℚ
  actuatorConfirmTimeout : ℚ
  manualMaxDuration : ℚ
  deriving DecidableEq, Repr

/-- The data of a zone: what the three forms asked for. -/
structure ZoneData where
  identity : IdentityInput
  thresholds : ThresholdsInput
  limits : LimitsInput
  deriving DecidableEq, Repr

/-- `_normalize`. -/
def ZoneData.normalize (data : ZoneData) : ZoneData where
  identity := { data.identity with name := strip data.identity.name }
  thresholds :=
    { data.thresholds with
      pulseDuration := truncate data.thresholds.pulseDuration
      soakDuration := truncate data.thresholds.soakDuration }
  limits :=
    { maxCycles := truncate data.limits.maxCycles
      maxSessionRuntime := truncate data.limits.maxSessionRuntime
      maxDailyRuntime := truncate data.limits.maxDailyRuntime
      minSessionInterval := truncate data.limits.minSessionInterval
      sensorMaxAge := truncate data.limits.sensorMaxAge
      actuatorConfirmTimeout := truncate data.limits.actuatorConfirmTimeout
      manualMaxDuration := truncate data.limits.manualMaxDuration }

theorem ZoneData.normalize_normalize (data : ZoneData) :
    data.normalize.normalize = data.normalize := by
  simp [normalize, strip_strip, truncate_intCast]

/-- `zone_config_from_subentry`.  A count below zero is out of bounds as zero is. -/
def zoneConfigFromSubentry (data : ZoneData) : ZoneConfig where
  name := data.identity.name
  moistureSensor := data.identity.moistureSensor
  actuator := data.identity.actuator
  startThreshold := data.thresholds.startThreshold
  targetThreshold := data.thresholds.targetThreshold
  pulseDurationS := truncate data.thresholds.pulseDuration
  soakDurationS := truncate data.thresholds.soakDuration
  maxCycles := (truncate data.limits.maxCycles).toNat
  maxSessionRuntimeS := truncate data.limits.maxSessionRuntime
  maxDailyRuntimeS := truncate data.limits.maxDailyRuntime
  minSessionIntervalS := truncate data.limits.minSessionInterval
  sensorMaxAgeS := truncate data.limits.sensorMaxAge
  actuatorConfirmTimeoutS := truncate data.limits.actuatorConfirmTimeout
  manualMaxDurationS := truncate data.limits.manualMaxDuration

/-- A `ConfigSubentry`; the flow reads the data of zones only. -/
structure ZoneSubentry where
  subentryType : String
  title : String
  data : ZoneData
  deriving DecidableEq, Repr

/-! ## What the checks read -/

/-- What the flow reads of Home Assistant: the `supported_features` of each known state, the
registry, and the store of the entry's runtime once it is loaded. -/
structure FlowHass where
  supportedFeatures : String → Option Nat
  registry : RegistryLookup
  store : Option StoreData

/-- `_other_zones`. -/
def otherZones (subentries : Dict String ZoneSubentry) (reconfigureId : Option String) :
    List ZoneData :=
  (subentries.entries.filter fun (subentryId, subentry) =>
    subentry.subentryType = "zone" && some subentryId ≠ reconfigureId).map fun (_, subentry) =>
      subentry.data

/-- `_same_registry_identity`: the registry decides, equal text is enough. -/
def sameRegistryIdentity (registry : RegistryLookup) (first second : String) : Bool :=
  first = second || (registry first).any fun firstEntry =>
    (registry second).any fun secondEntry => firstEntry.id = secondEntry.id

/-! ## Checks -/

/-- The checks of the record that was last known under the candidate's entity ID. -/
def contradicts (candidateUuid reconfigureId : Option String) (record : SafetyRecord) : Bool :=
  match candidateUuid with
  | none => record.activeSubentryId ≠ reconfigureId
  | some uuid =>
    match record.actuatorIdentity.registryEntryId with
    | none => record.activeSubentryId ≠ reconfigureId
    | some stored => stored ≠ uuid

/-- `_retained_actuator_identity_error`. -/
def retainedActuatorIdentityError (hass : FlowHass) (actuator : String)
    (reconfigureId : Option String) : Option String :=
  match hass.store with
  | none => none
  | some store =>
    let candidateUuid := (hass.registry actuator).map RegistryEntry.id
    let records := store.safetyRecords.values
    let exact := records.filter fun record =>
      candidateUuid.isSome && record.actuatorIdentity.registryEntryId = candidateUuid
    if 1 < exact.length then some "actuator_identity_conflict"
    else if exact.any fun record =>
        record.activeSubentryId.isSome && record.activeSubentryId ≠ reconfigureId then
      some "duplicate_actuator"
    else if records.any fun record =>
        record.actuatorIdentity.lastKnownEntityId = some actuator &&
          contradicts candidateUuid reconfigureId record then
      some "actuator_identity_conflict"
    else none

/-- The errors of a form: the field and the key of its message. -/
abbrev FlowErrors := List (String × String)

section Identity

variable (casefold : String → String) (hass : FlowHass) (others : List ZoneData)

def nameError (name : String) : Option String :=
  if ¬ (1 ≤ name.length ∧ name.length ≤ 64) then some "invalid_name"
  else if others.any fun other => casefold other.identity.name = casefold name then
    some "duplicate_name"
  else none

/-- `hass.states.get(entity_id) if entity_id else None`. -/
def stateOf (entityId : String) : Option Nat :=
  if entityId = "" then none else hass.supportedFeatures entityId

def sensorError (sensor : String) : Option String :=
  if (stateOf hass sensor).isNone then some "entity_not_found"
  else if ¬ startsWith sensor "sensor." then some "wrong_domain"
  else none

/-- Another zone has this sensor, which only warrants a warning. -/
def sharesSensor (sensor : String) : Bool :=
  (sensorError hass sensor).isNone && others.any fun other =>
    sameRegistryIdentity hass.registry other.identity.moistureSensor sensor

/-- Whether the actuator can be commanded: a valve has to open and to close. -/
def actuatorKindError (actuator : String) : Option String :=
  match stateOf hass actuator with
  | none => some "entity_not_found"
  | some features =>
    if ¬ (startsWith actuator "switch." || startsWith actuator "valve.") then some "wrong_domain"
    else if startsWith actuator "valve." && !(features.testBit 0 && features.testBit 1) then
      some "valve_features_missing"
    else none

def actuatorError (actuator : String) (reconfigureId : Option String) : Option String :=
  (actuatorKindError hass actuator).or <|
    if others.any fun other =>
        sameRegistryIdentity hass.registry other.identity.actuator actuator then
      some "duplicate_actuator"
    else retainedActuatorIdentityError hass actuator reconfigureId

/-- The errors of `_validate_identity`. -/
def validateIdentity (input : IdentityInput) (reconfigureId : Option String) : FlowErrors :=
  ((nameError casefold others (strip input.name)).map ("name", ·)).toList ++
    ((sensorError hass input.moistureSensor).map ("moisture_sensor", ·)).toList ++
    ((actuatorError hass others input.actuator reconfigureId).map ("actuator", ·)).toList

/-- `_validate_partial`. -/
def validatePartial (input : ThresholdsInput) : FlowErrors :=
  if input.startThreshold < input.targetThreshold then []
  else [("target_threshold", "target_not_above_start")]

/-- `_validate_full`: every bound is checked on the configuration itself. -/
def validateFull (candidate : ZoneData) (reconfigureId : Option String) : FlowErrors :=
  let errors := validateIdentity casefold hass others candidate.identity reconfigureId ++
    validatePartial candidate.thresholds
  if errors ≠ [] then errors
  else if (zoneConfigFromSubentry candidate).validationErrors ≠ [] then
    [("base", "invalid_configuration")]
  else []

variable {casefold hass others} {candidate : ZoneData} {reconfigureId : Option String}

/-- A candidate without an error is within every bound. -/
theorem validationErrors_of_validateFull
    (accepted : validateFull casefold hass others candidate reconfigureId = []) :
    (zoneConfigFromSubentry candidate).validationErrors = [] := by
  simp only [validateFull] at accepted
  split at accepted
  · rename_i raised
    exact absurd accepted raised
  · split at accepted
    · cases accepted
    · rename_i within
      exact not_not.mp within

theorem validateIdentity_of_validateFull
    (accepted : validateFull casefold hass others candidate reconfigureId = []) :
    validateIdentity casefold hass others candidate.identity reconfigureId = [] := by
  simp only [validateFull] at accepted
  split at accepted
  · rename_i raised
    exact absurd accepted raised
  · rename_i none
    exact (List.append_eq_nil_iff.mp (not_not.mp none)).1

/-- An identity without an error has a name and an actuator that no other zone has. -/
theorem differs_of_validateIdentity {input : IdentityInput}
    (accepted : validateIdentity casefold hass others input reconfigureId = []) :
    ∀ other ∈ others, casefold other.identity.name ≠ casefold (strip input.name) ∧
      other.identity.actuator ≠ input.actuator := by
  obtain ⟨named, actuated⟩ := List.append_eq_nil_iff.mp accepted
  obtain ⟨named, -⟩ := List.append_eq_nil_iff.mp named
  have named : nameError casefold others (strip input.name) = none := by simpa using named
  have actuated : actuatorError hass others input.actuator reconfigureId = none := by
    simpa using actuated
  intro other member
  constructor
  · intro same
    have repeated : others.any
        (fun other => casefold other.identity.name = casefold (strip input.name)) = true :=
      List.any_eq_true.mpr ⟨other, member, decide_eq_true same⟩
    rw [nameError, if_pos repeated] at named
    split at named <;> cases named
  · intro same
    have repeated : others.any (fun other =>
        sameRegistryIdentity hass.registry other.identity.actuator input.actuator) = true :=
      List.any_eq_true.mpr ⟨other, member, by simp [sameRegistryIdentity, same]⟩
    rw [actuatorError, if_pos repeated] at actuated
    simp at actuated

end Identity

theorem mem_otherZones_iff {subentries : Dict String ZoneSubentry} {reconfigureId : Option String}
    {data : ZoneData} :
    data ∈ otherZones subentries reconfigureId ↔ ∃ subentryId subentry,
      subentries.get? subentryId = some subentry ∧ subentry.subentryType = "zone" ∧
      some subentryId ≠ reconfigureId ∧ subentry.data = data := by
  simp only [otherZones, List.mem_map, List.mem_filter, Prod.exists, Bool.and_eq_true,
    decide_eq_true_eq, Dict.get?_eq_some_iff, and_assoc]

end MoistureLoop
