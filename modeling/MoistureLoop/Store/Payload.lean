import MoistureLoop.Foundations.Codec
import MoistureLoop.Store.Records

/-! # Stored payloads and their strict readers

The tree of plain values that Home Assistant stores, what the codec of `models.py`
uses of Python's library, and the strict readers of single values with their messages. -/

namespace MoistureLoop

/-- A stored value.  `nonFinite` is a NaN or an infinity; every other float is exact. -/
inductive Payload where
  | null
  | bool (value : Bool)
  | int (value : Int)
  | float (value : ℚ)
  | nonFinite
  | str (value : String)
  | list (items : List Payload)
  | dict (entries : List (String × Payload))

/-- What the codec can raise.  An `OverflowError` of `float` is caught by no reader. -/
inductive DecodeError where
  | malformed (message : String)
  | futureVersion (message : String)
  | value (message : String)
  | overflow
  deriving DecidableEq, Repr

/-- A parsed `datetime`; a naive one has no offset. -/
structure ParsedDatetime where
  instant : Instant
  utcoffset : Option Seconds
  deriving DecidableEq

/-- The functions of Python that the codec calls.  `fromisoformat` reads what
`isoformat` writes, and what it reads is a `datetime` or a `date` again. -/
structure PyRuntime where
  isoformat : Instant → String
  fromisoformat : String → Option ParsedDatetime
  dateIsoformat : LocalDate → String
  dateFromisoformat : String → Option LocalDate
  /-- `float` of an integer; none is an `OverflowError`. -/
  floatOfInt : Int → Option ℚ
  repr : Payload → String
  /-- The instants that a `datetime` in UTC can be. -/
  IsDatetime : Instant → Prop
  /-- The days that a `date` can be. -/
  IsDate : LocalDate → Prop
  fromisoformat_isoformat : ∀ instant, IsDatetime instant →
    fromisoformat (isoformat instant) = some ⟨instant, some 0⟩
  isDatetime_of_fromisoformat : ∀ text instant,
    fromisoformat text = some ⟨instant, some 0⟩ → IsDatetime instant
  dateFromisoformat_dateIsoformat : ∀ day, IsDate day →
    dateFromisoformat (dateIsoformat day) = some day
  isDate_of_dateFromisoformat : ∀ text day, dateFromisoformat text = some day → IsDate day

/-! ## The texts of the enumerations -/

def ControllerState.value : ControllerState → String
  | .disabled => "disabled"
  | .idle => "idle"
  | .watering => "watering"
  | .soaking => "soaking"
  | .fault => "fault"

instance : StrEnum ControllerState where
  className := "ControllerState"
  members := [.disabled, .idle, .watering, .soaking, .fault]
  value := ControllerState.value
  complete state := by cases state <;> simp
  nodup := by decide +kernel

def SessionMode.value : SessionMode → String
  | .auto => "auto"
  | .manual => "manual"

instance : StrEnum SessionMode where
  className := "SessionMode"
  members := [.auto, .manual]
  value := SessionMode.value
  complete mode := by cases mode <;> simp
  nodup := by decide +kernel

def FaultCode.value : FaultCode → String
  | .sensorUnavailable => "sensor_unavailable"
  | .sensorStale => "sensor_stale"
  | .sensorInvalid => "sensor_invalid"
  | .actuatorUnavailable => "actuator_unavailable"
  | .actuatorOnTimeout => "actuator_on_timeout"
  | .actuatorOffTimeout => "actuator_off_timeout"
  | .configurationInvalid => "configuration_invalid"
  | .restoredFromUnsafeState => "restored_from_unsafe_state"

instance : StrEnum FaultCode where
  className := "FaultCode"
  members := [.sensorUnavailable, .sensorStale, .sensorInvalid, .actuatorUnavailable,
    .actuatorOnTimeout, .actuatorOffTimeout, .configurationInvalid, .restoredFromUnsafeState]
  value := FaultCode.value
  complete fault := by cases fault <;> simp
  nodup := by decide +kernel

def CompletionReason.value : CompletionReason → String
  | .targetReached => "target_reached"
  | .manualComplete => "manual_complete"
  | .maxCycles => "max_cycles"
  | .maxSessionRuntime => "max_session_runtime"
  | .dailyRuntimeLimit => "daily_runtime_limit"
  | .userStop => "user_stop"
  | .zoneDisabled => "zone_disabled"
  | .externalActuatorStateChange => "external_actuator_state_change"
  | .configReload => "config_reload"
  | .configChanged => "config_changed"
  | .homeAssistantShutdown => "home_assistant_shutdown"
  | .restartRecovery => "restart_recovery"
  | .sensorFault => "sensor_fault"
  | .actuatorFault => "actuator_fault"

instance : StrEnum CompletionReason where
  className := "CompletionReason"
  members := [.targetReached, .manualComplete, .maxCycles, .maxSessionRuntime,
    .dailyRuntimeLimit, .userStop, .zoneDisabled, .externalActuatorStateChange, .configReload,
    .configChanged, .homeAssistantShutdown, .restartRecovery, .sensorFault, .actuatorFault]
  value := CompletionReason.value
  complete reason := by cases reason <;> simp
  nodup := by decide +kernel

def RuntimeEstimationReason.value : RuntimeEstimationReason → String
  | .none => "none"
  | .restartFoundOn => "restart_found_on"
  | .restartFoundOffUnknownStop => "restart_found_off_unknown_stop"
  | .offUnconfirmed => "off_unconfirmed"

instance : StrEnum RuntimeEstimationReason where
  className := "RuntimeEstimationReason"
  members := [.none, .restartFoundOn, .restartFoundOffUnknownStop, .offUnconfirmed]
  value := RuntimeEstimationReason.value
  complete reason := by cases reason <;> simp
  nodup := by decide +kernel

instance : StrEnum BlockerReason where
  className := "BlockerReason"
  members := [.externalFlow, .integrationOffUnconfirmed, .actuatorNotProvenOff]
  value := BlockerReason.value
  complete reason := by cases reason <;> simp
  nodup := by decide +kernel

def RuntimeLifecycle.value : RuntimeLifecycle → String
  | .active => "active"
  | .deletePending => "delete_pending"
  | .retired => "retired"

instance : StrEnum RuntimeLifecycle where
  className := "RuntimeLifecycle"
  members := [.active, .deletePending, .retired]
  value := RuntimeLifecycle.value
  complete lifecycle := by cases lifecycle <;> simp
  nodup := by decide +kernel

def IdentityStatus.value : IdentityStatus → String
  | .registryConfirmed => "registry_confirmed"
  | .registryUnavailable => "registry_unavailable"
  | .missing => "missing"
  | .conflict => "conflict"

instance : StrEnum IdentityStatus where
  className := "IdentityStatus"
  members := [.registryConfirmed, .registryUnavailable, .missing, .conflict]
  value := IdentityStatus.value
  complete status := by cases status <;> simp
  nodup := by decide +kernel

def PossibleFlowOwner.value : PossibleFlowOwner → String
  | .integration => "integration"
  | .external => "external"

instance : StrEnum PossibleFlowOwner where
  className := "PossibleFlowOwner"
  members := [.integration, .external]
  value := PossibleFlowOwner.value
  complete owner := by cases owner <;> simp
  nodup := by decide +kernel

def IdentityIncidentKind.value : IdentityIncidentKind → String
  | .migrationUnresolved => "migration_unresolved"
  | .identityMissing => "identity_missing"
  | .identityConflict => "identity_conflict"

instance : StrEnum IdentityIncidentKind where
  className := "IdentityIncidentKind"
  members := [.migrationUnresolved, .identityMissing, .identityConflict]
  value := IdentityIncidentKind.value
  complete kind := by cases kind <;> simp
  nodup := by decide +kernel

def ManualClampReason.value : ManualClampReason → String
  | .manualMaxDuration => "manual_max_duration"
  | .maxSessionRuntime => "max_session_runtime"
  | .remainingDailyBudget => "remaining_daily_budget"

instance : StrEnum ManualClampReason where
  className := "ManualClampReason"
  members := [.manualMaxDuration, .maxSessionRuntime, .remainingDailyBudget]
  value := ManualClampReason.value
  complete reason := by cases reason <;> simp
  nodup := by decide +kernel

/-! ## Writing single values -/

namespace Payload

def ofOption {α : Type} (write : α → Payload) : Option α → Payload
  | none => .null
  | some value => write value

/-- The `.value` of an enumeration member. -/
def ofEnum {α : Type} [StrEnum α] (member : α) : Payload := .str (StrEnum.value member)

/-- A number that the source types as `int`. -/
def ofWhole (number : ℚ) : Payload :=
  if number.den = 1 then .int number.num else .float number

/-- `mapping.get(key)`. -/
def field (entries : List (String × Payload)) (key : String) : Payload :=
  (entries.lookup key).getD .null

@[simp] theorem field_cons (key key' : String) (value : Payload)
    (rest : List (String × Payload)) :
    field ((key', value) :: rest) key = if key = key' then value else field rest key := by
  by_cases same : key = key'
  · simp [field, same]
  · have differs : (key == key') = false := by simpa using same
    simp [field, List.lookup_cons, differs, same]

@[simp] theorem ofWhole_natCast (number : ℕ) : ofWhole (number : ℚ) = .int number := by
  simp [ofWhole]

end Payload

/-- `_dt_to_iso`. -/
def dtToIso (py : PyRuntime) : Option Instant → Payload :=
  Payload.ofOption fun instant => .str (py.isoformat instant)

/-! ## Reading single values -/

section Readers

variable (py : PyRuntime)

/-- `_iso_to_dt`. -/
def isoToDt (raw : Payload) (name : String) : Except DecodeError (Option Instant) :=
  match raw with
  | .null => .ok none
  | .str text =>
    match py.fromisoformat text with
    | none => .error (.malformed (name ++ " is not a valid ISO datetime"))
    | some parsed =>
      if parsed.utcoffset = some 0 then .ok (some parsed.instant)
      else .error (.malformed (name ++ " must be timezone-aware UTC"))
  | _ => .error (.malformed (name ++ " must be an ISO string or null"))

/-- `_require_dt`. -/
def requireDt (value : Option Instant) (name : String) : Except DecodeError Instant :=
  match value with
  | none => .error (.malformed (name ++ " must be an ISO datetime"))
  | some instant => .ok instant

/-- `date.fromisoformat`. -/
def parseDate (text : String) : Except DecodeError LocalDate :=
  match py.dateFromisoformat text with
  | none => .error (.value ("Invalid isoformat string: " ++ py.repr (.str text)))
  | some day => .ok day

/-- The constructor of an enumeration, applied to a stored value. -/
def enumOf (α : Type) [StrEnum α] (raw : Payload) : Except DecodeError α :=
  let unknown : Except DecodeError α :=
    .error (.value (py.repr raw ++ " is not a valid " ++ StrEnum.className α))
  match raw with
  | .str text => (StrEnum.ofValue? text).elim unknown .ok
  | _ => unknown

/-- `_enum_or_none`. -/
def enumOrNone (α : Type) [StrEnum α] (raw : Payload) (name : String) :
    Except DecodeError (Option α) :=
  match raw with
  | .null => .ok none
  | raw =>
    match enumOf py α raw with
    | .ok member => .ok (some member)
    | .error _ => .error (.malformed (name ++ " has unknown value " ++ py.repr raw))

/-- `_require_exact_keys`. -/
def requireExactKeys (raw : Payload) (expected : List String) (context : String) :
    Except DecodeError (List (String × Payload)) :=
  match raw with
  | .dict entries =>
    let keys := entries.map Prod.fst
    let missing := expected.filter fun key => key ∉ keys
    let extra := keys.filter fun key => key ∉ expected
    let listed (names : List String) : String :=
      py.repr (.list ((names.insertionSort (· ≤ ·)).map .str))
    if missing = [] ∧ extra = [] then .ok entries
    else .error (.malformed (context ++ " keys invalid; missing=" ++ listed missing
      ++ ", extra=" ++ listed extra))
  | _ => .error (.malformed (context ++ " must be an object"))

/-- `_strict_string`. -/
def strictString (raw : Payload) (name : String) : Except DecodeError String :=
  let refused : Except DecodeError String :=
    .error (.malformed (name ++ " must be a non-empty string"))
  match raw with
  | .str text => if text = "" then refused else .ok text
  | _ => refused

/-- `_strict_string` with `nullable=True`. -/
def strictStringOrNull (raw : Payload) (name : String) : Except DecodeError (Option String) :=
  match raw with
  | .null => .ok none
  | raw => (strictString raw name).map some

/-- `_strict_bool`. -/
def strictBool (raw : Payload) (name : String) : Except DecodeError Bool :=
  match raw with
  | .bool value => .ok value
  | _ => .error (.malformed (name ++ " must be a boolean"))

/-- `_strict_int`. -/
def strictInt (raw : Payload) (name : String) (minimum : ℕ) : Except DecodeError ℕ :=
  let refused : Except DecodeError ℕ :=
    .error (.malformed (name ++ " must be an integer >= " ++ toString minimum))
  match raw with
  | .int value => if value < minimum then refused else .ok value.toNat
  | _ => refused

/-- `_strict_float` with its default minimum. -/
def strictFloat (raw : Payload) (name : String) : Except DecodeError ℚ :=
  let refused : Except DecodeError ℚ :=
    .error (.malformed (name ++ " must be a finite number >= 0.0"))
  match raw with
  | .int value =>
    match py.floatOfInt value with
    | none => .error .overflow
    | some result => if result < 0 then refused else .ok result
  | .float value => if value < 0 then refused else .ok value
  | _ => refused

/-- `_float_or_none`. -/
def floatOrNone (raw : Payload) : Except DecodeError (Option ℚ) :=
  match raw with
  | .null => .ok none
  | .int value =>
    match py.floatOfInt value with
    | none => .error .overflow
    | some result => .ok (some result)
  | .float value => .ok (some value)
  | .nonFinite => .error (.malformed ("expected finite number, got " ++ py.repr raw))
  | _ => .error (.malformed ("expected number, got " ++ py.repr raw))

def listOf (raw : Payload) (message : String) : Except DecodeError (List Payload) :=
  match raw with
  | .list items => .ok items
  | _ => .error (.malformed message)

/-- `_string_tuple`; `readItem` reads a string or an enumeration member.  Both refusals are
`ValueError`s, and the message of either is replaced. -/
def stringTuple {α : Type} [DecidableEq α] (readItem : Payload → Except DecodeError α)
    (raw : Payload) (name : String) : Except DecodeError (List α) := do
  let items ← listOf raw (name ++ " must be a list")
  match items.mapM readItem with
  | .error _ => .error (.malformed (name ++ " contains an unknown value"))
  | .ok result =>
    if result.Nodup then .ok result
    else .error (.malformed (name ++ " must not contain duplicates"))

/-- An `except ValueError` that turns a plain `ValueError` into a `MalformedStoreData`. -/
def rewrap {α : Type} (context : String) : Except DecodeError α → Except DecodeError α
  | .error (.value message) => .error (.malformed (context ++ message))
  | result => result

def construct {α : Type} (guards : α → List (Bool × String)) (value : α) :
    Except DecodeError α :=
  (Checked.raiseFirst DecodeError.value (guards value)).map fun _ => value

end Readers

/-! ## Each reader gives back what was written -/

section Laws

variable {py : PyRuntime}

theorem isoToDt_dtToIso {value : Option Instant} (name : String)
    (datetime : ∀ instant ∈ value, py.IsDatetime instant) :
    isoToDt py (dtToIso py value) name = .ok value := by
  cases value with
  | none => rfl
  | some instant =>
    simp [dtToIso, Payload.ofOption, isoToDt,
      py.fromisoformat_isoformat instant (datetime instant rfl)]

@[simp] theorem enumOf_ofEnum {α : Type} [StrEnum α] (member : α) :
    enumOf py α (.ofEnum member) = .ok member := by
  simp [enumOf, Payload.ofEnum]

@[simp] theorem enumOrNone_ofOption {α : Type} [StrEnum α] (value : Option α) (name : String) :
    enumOrNone py α (.ofOption .ofEnum value) name = .ok value := by
  cases value with
  | none => rfl
  | some member =>
    have read := @enumOf_ofEnum py α _ member
    rw [Payload.ofEnum] at read
    simp [Payload.ofOption, Payload.ofEnum, enumOrNone, read]

theorem requireExactKeys_eq_ok {entries : List (String × Payload)} {expected : List String}
    (context : String) (same : entries.map Prod.fst = expected) :
    requireExactKeys py (.dict entries) expected context = .ok entries := by
  subst same
  simp [requireExactKeys]

theorem strictString_str {text : String} (name : String) (filled : text ≠ "") :
    strictString (.str text) name = .ok text := by
  simp [strictString, filled]

theorem strictStringOrNull_ofOption {value : Option String} (name : String)
    (filled : value ≠ some "") :
    strictStringOrNull (.ofOption .str value) name = .ok value := by
  cases value with
  | none => rfl
  | some text =>
    have filled' : text ≠ "" := by simpa using filled
    simp [Payload.ofOption, strictStringOrNull, strictString_str name filled', Except.map]

@[simp] theorem strictBool_bool (value : Bool) (name : String) :
    strictBool (.bool value) name = .ok value := rfl

theorem strictInt_int {number minimum : ℕ} (name : String) (enough : minimum ≤ number) :
    strictInt (.int number) name minimum = .ok number := by
  simp [strictInt, enough]

theorem strictFloat_float {number : ℚ} (name : String) (nonnegative : 0 ≤ number) :
    strictFloat py (.float number) name = .ok number := by
  simp [strictFloat, nonnegative]

@[simp] theorem floatOrNone_ofOption (value : Option ℚ) :
    floatOrNone py (.ofOption .float value) = .ok value := by
  cases value <;> rfl

theorem stringTuple_list {α : Type} [DecidableEq α] {readItem : Payload → Except DecodeError α}
    {write : α → Payload} {items : List α} (name : String)
    (inverts : ∀ item ∈ items, readItem (write item) = .ok item) (nodup : items.Nodup) :
    stringTuple readItem (.list (items.map write)) name = .ok items := by
  have read : (items.map write).mapM readItem = .ok items := by
    have mapped : (items.map write).mapM readItem = .ok (items.map id) :=
      Codec.mapM_map_eq_ok inverts
    rwa [List.map_id] at mapped
  simp [stringTuple, listOf, read, nodup]

theorem construct_eq_ok_iff {α : Type} {guards : α → List (Bool × String)}
    {value constructed : α} :
    construct guards value = .ok constructed ↔ Checked.Holds (guards value) ∧
      constructed = value := by
  rw [← @Checked.raiseFirst_eq_ok_iff _ DecodeError.value, construct]
  cases Checked.raiseFirst DecodeError.value (guards value) <;> simp [Except.map, eq_comm]

@[simp] theorem rewrap_ok {α : Type} (context : String) (value : α) :
    rewrap context (.ok value) = .ok value := rfl

theorem rewrap_eq_ok_iff {α : Type} {context : String} {result : Except DecodeError α}
    {value : α} : rewrap context result = .ok value ↔ result = .ok value := by
  rcases result with err | found
  · cases err <;> simp [rewrap]
  · rfl

/-! ## What a reader accepts -/

theorem eq_of_requireExactKeys {entries data : List (String × Payload)}
    {expected : List String} {context : String}
    (read : requireExactKeys py (.dict entries) expected context = .ok data) :
    data = entries := by
  simp only [requireExactKeys] at read
  split at read
  · exact (Except.ok.inj read).symm
  · cases read

theorem isDatetime_of_isoToDt {raw : Payload} {name : String} {value : Option Instant}
    (read : isoToDt py raw name = .ok value) : ∀ instant ∈ value, py.IsDatetime instant := by
  rintro instant rfl
  unfold isoToDt at read
  split at read
  · cases read
  · rename_i text
    split at read
    · cases read
    · rename_i parsed parses
      split at read
      · rename_i utc
        obtain rfl := Option.some.inj (Except.ok.inj read)
        refine py.isDatetime_of_fromisoformat text parsed.instant ?_
        rw [parses, ← utc]
      · cases read
  · cases read

theorem eq_of_requireDt {value : Option Instant} {name : String} {instant : Instant}
    (required : requireDt value name = .ok instant) : value = some instant := by
  cases value with
  | none => cases required
  | some found => rw [Except.ok.inj required]

theorem isDate_of_parseDate {text : String} {day : LocalDate}
    (parsed : parseDate py text = .ok day) : py.IsDate day := by
  unfold parseDate at parsed
  split at parsed
  · cases parsed
  · rename_i found parses
    obtain rfl := Except.ok.inj parsed
    exact py.isDate_of_dateFromisoformat _ _ parses

theorem ne_empty_of_strictString {raw : Payload} {name text : String}
    (read : strictString raw name = .ok text) : text ≠ "" := by
  unfold strictString at read
  split at read
  · split at read
    · cases read
    · rename_i filled
      obtain rfl := Except.ok.inj read
      exact filled
  · cases read

theorem ne_empty_of_strictStringOrNull {raw : Payload} {name : String} {value : Option String}
    (read : strictStringOrNull raw name = .ok value) : value ≠ some "" := by
  rintro rfl
  unfold strictStringOrNull at read
  split at read
  · cases read
  · cases strings : strictString raw name with
    | error err => simp [strings, Except.map] at read
    | ok text =>
      have filled := ne_empty_of_strictString strings
      simp only [strings, Except.map, Except.ok.injEq, Option.some.injEq] at read
      exact filled read

theorem nonneg_of_strictFloat {raw : Payload} {name : String} {number : ℚ}
    (read : strictFloat py raw name = .ok number) : 0 ≤ number := by
  have checked : ∀ value : ℚ, (if value < 0 then
      (.error (.malformed (name ++ " must be a finite number >= 0.0")) : Except DecodeError ℚ)
      else .ok value) = .ok number → 0 ≤ number := by
    intro value accepted
    split at accepted
    · cases accepted
    · rename_i nonnegative
      obtain rfl := Except.ok.inj accepted
      exact not_lt.mp nonnegative
  unfold strictFloat at read
  split at read
  · split at read
    · cases read
    · exact checked _ read
  · exact checked _ read
  · cases read

theorem of_stringTuple {α : Type} [DecidableEq α] {readItem : Payload → Except DecodeError α}
    {P : α → Prop} {raw : Payload} {name : String} {items : List α}
    (sound : ∀ member item, readItem member = .ok item → P item)
    (read : stringTuple readItem raw name = .ok items) : items.Nodup ∧ ∀ item ∈ items, P item := by
  obtain ⟨members, -, read⟩ := Except.bind_eq_ok_iff.mp read
  split at read
  · cases read
  · rename_i result mapped
    split at read
    · rename_i nodup
      obtain rfl := Except.ok.inj read
      exact ⟨nodup, Codec.forall_of_mapM_eq_ok sound mapped⟩
    · cases read

end Laws

end MoistureLoop
