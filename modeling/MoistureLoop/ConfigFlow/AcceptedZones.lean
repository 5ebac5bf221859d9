import MoistureLoop.ConfigFlow.ZoneFlows
import MoistureLoop.Runtime.Observation

/-! # What the zone flows leave in an entry

Whatever the forms of any number of flows are answered with, in any order, the entry can be
observed: each zone is in normal form and within every bound.  Two zones never share a name
or an actuator as long as no flow stores a zone while another one waits for its preparation,
since the candidate of a reconfiguration is not looked at again afterwards. -/

namespace MoistureLoop

open Checked

/-- A zone as an accepted form leaves it. -/
structure ZoneSubentry.Accepted (subentry : ZoneSubentry) : Prop where
  normal : subentry.data.normalize = subentry.data
  titled : subentry.title = subentry.data.identity.name
  valid : (zoneConfigFromSubentry subentry.data).validationErrors = []

/-- No name and no actuator in common. -/
def ZoneData.Apart (casefold : String → String) (data other : ZoneData) : Prop :=
  casefold data.identity.name ≠ casefold other.identity.name ∧
    data.identity.actuator ≠ other.identity.actuator

instance (casefold : String → String) (data other : ZoneData) :
    Decidable (data.Apart casefold other) :=
  inferInstanceAs (Decidable (_ ∧ _))

theorem ZoneData.Apart.symm {casefold : String → String} {data other : ZoneData}
    (apart : data.Apart casefold other) : other.Apart casefold data :=
  ⟨apart.1.symm, apart.2.symm⟩

namespace ZoneEntry

variable {φ : Type} [DecidableEq φ] {casefold : String → String}
  {entry next start finish : ZoneEntry φ} {flow? : Option φ}

/-! ## Bounds and normal form -/

/-- Every zone is as an accepted form leaves it, and so is every candidate in preparation. -/
structure Accepted (entry : ZoneEntry φ) : Prop where
  zones : ∀ subentryId subentry, entry.subentries.get? subentryId = some subentry →
    subentry.subentryType = "zone" → subentryId ≠ "" ∧ subentry.Accepted
  preparing : ∀ flow candidate, (entry.flows flow).candidateInPreparation = some candidate →
    candidate.normalize = candidate ∧ (zoneConfigFromSubentry candidate).validationErrors = []

theorem Accepted.of_moved (held : entry.Accepted) (moved : Moved casefold entry flow? next) :
    next.Accepted := by
  cases moved with
  | answered zones flows =>
    refine ⟨fun subentryId subentry present => ?_, fun flow candidate prepares => ?_⟩
    · rw [zones] at present
      exact held.zones subentryId subentry present
    · rcases flows flow with same | none
      · exact held.preparing flow candidate (by rw [← same]; exact prepares)
      · rw [none] at prepares
        cases prepares
  | removed removed zones flows =>
    refine ⟨fun subentryId subentry present => ?_, by rw [flows]; exact held.preparing⟩
    rw [zones, Dict.get?_eq_some_iff, Dict.mem_entries_erase] at present
    exact held.zones subentryId subentry (Dict.get?_eq_some_iff.mpr present.2)
  | created flow created newId _ normal accepted named absent zones others none =>
    refine ⟨fun subentryId subentry present zoned => ?_, fun other candidate prepares => ?_⟩
    · rw [zones, Dict.get?_set] at present
      split at present
      · rename_i same
        obtain rfl := Option.some.inj present
        rw [same]
        exact ⟨named, ⟨normal, rfl, validationErrors_of_validateFull accepted⟩⟩
      · exact held.zones subentryId subentry present zoned
    · by_cases same : other = flow
      · rw [same, none] at prepares
        cases prepares
      · exact held.preparing other candidate (by rw [← others other same]; exact prepares)
  | accepted flow chosen subentryId normal accepted zones others prepared _ =>
    refine ⟨by rw [zones]; exact held.zones, fun other candidate prepares => ?_⟩
    by_cases same : other = flow
    · rw [same, prepared] at prepares
      obtain rfl := Option.some.inj prepares
      exact ⟨normal, validationErrors_of_validateFull accepted⟩
    · exact held.preparing other candidate (by rw [← others other same]; exact prepares)
  | updated flow chosen updatedId old _ prepared _ found zones others none =>
    obtain ⟨normal, valid⟩ := held.preparing flow chosen prepared
    refine ⟨fun subentryId subentry present zoned => ?_, fun other candidate prepares => ?_⟩
    · rw [zones, Dict.get?_set] at present
      split at present
      · rename_i same
        obtain rfl := Option.some.inj present
        rw [same]
        exact ⟨(held.zones updatedId old found zoned).1, ⟨normal, rfl, valid⟩⟩
      · exact held.zones subentryId subentry present zoned
    · by_cases same : other = flow
      · rw [same, none] at prepares
        cases prepares
      · exact held.preparing other candidate (by rw [← others other same]; exact prepares)

theorem accepted_of_run (initial : start.Accepted)
    (reached : (system casefold).Run (fun _ _ _ => True) start finish) : finish.Accepted :=
  reached.preserves initial fun _ _ _ held stepped _ => held.of_moved (step_moved stepped)

variable {digest : SnapshotDigest} {timezone : String} {lookup : RegistryLookup}
  {hints : String → Option ZoneHints} {generation : Nat}

/-- In every interleaving of zone flows, whatever their forms are answered with, the entry can
be observed, and the canonical shadow of every zone passes its checks. -/
theorem observed_of_run (identified : lookup.Identified) (initial : start.Accepted)
    (reached : (system casefold).Run (fun _ _ _ => True) start finish) :
    ∃ snapshot, buildImmutableSnapshot digest timezone lookup hints finish.subentries generation =
        .ok snapshot ∧
      (∀ subentryId subentry, finish.subentries.get? subentryId = some subentry →
        subentry.subentryType = "zone" → ∃ zone ∈ snapshot.zones, zone.subentryId = subentryId) ∧
      ∀ zone ∈ snapshot.zones,
        Holds (zone.appliedShadow snapshot.entrySnapshotFingerprint
          snapshot.observedGeneration).guards := by
  have accepted := accepted_of_run initial reached
  obtain ⟨snapshot, built⟩ := @buildImmutableSnapshot_of_valid digest timezone lookup hints
    finish.subentries generation identified
    fun subentryId subentry present zoned => (accepted.zones _ _ present zoned).2.valid
  refine ⟨snapshot, built, fun _ _ => exists_of_buildImmutableSnapshot built, ?_⟩
  intro zone member
  obtain ⟨subentry, present, zoned, observed⟩ := mem_of_buildImmutableSnapshot built member
  obtain ⟨_, -, -, digested, -⟩ := buildImmutableSnapshot_eq_ok built
  refine appliedShadow_of_observeZone (accepted.zones _ _ present zoned).1 ?_ observed
  rw [digested]
  exact digest.entry_ne_empty _

/-! A sample entry with three switches, each a registry entry of its own. -/

def sampleRegistry : RegistryLookup := fun key =>
  if key ∈ ["switch.a", "switch.b", "switch.c"] then some ⟨"id of " ++ key, key⟩ else none

theorem sampleRegistry_identified : sampleRegistry.Identified := by
  intro key entry found
  obtain ⟨-, same⟩ := Option.ite_none_right_eq_some.mp found
  obtain rfl := Option.some.inj same
  intro empty
  have length := congrArg String.length empty
  simp at length

def sampleHass : FlowHass where
  supportedFeatures entityId :=
    if entityId ∈ ["sensor.soil", "switch.a", "switch.b", "switch.c"] then some 0 else none
  registry := sampleRegistry
  store := none

def sampleIdentity (name actuator : String) : IdentityInput := ⟨name, "sensor.soil", actuator⟩

def sampleThresholds : ThresholdsInput := ⟨30, 40, 3600, 1200⟩

def sampleLimits : LimitsInput := ⟨2, 7500, 14400, 21600, 7200, 30, 3600⟩

def answers {φ : Type} (flow : φ) (name actuator created : String) : List (FlowLabel φ) :=
  [.identity flow (sampleIdentity name actuator), .thresholds flow sampleThresholds,
   .limits flow sampleLimits created]

/-- An entry without zones, and two flows that have ended. -/
def sampleEntry : ZoneEntry Bool := ⟨sampleHass, .empty, fun _ => {}⟩

/-- Two zones are added by interleaved flows. -/
theorem observed_of_run_added : ∃ finish : ZoneEntry Bool,
    finish.subentries.keys = ["zone-a", "zone-b"] ∧
      ∃ snapshot, buildImmutableSnapshot sampleDigest "UTC" sampleRegistry (fun _ => none)
        finish.subentries 1 = .ok snapshot ∧
      (∀ subentryId subentry, finish.subentries.get? subentryId = some subentry →
        subentry.subentryType = "zone" → ∃ zone ∈ snapshot.zones, zone.subentryId = subentryId) ∧
      ∀ zone ∈ snapshot.zones,
        Holds (zone.appliedShadow snapshot.entrySnapshotFingerprint
          snapshot.observedGeneration).guards := by
  have given : (((system String.toLower).run sampleEntry
      ([.add false, .add true] ++ answers false " Bed " "switch.a" "zone-a" ++
        answers true "Lawn" "switch.b" "zone-b")).any
      fun finish => decide (finish.subentries.keys = ["zone-a", "zone-b"])) = true := by
    decide +kernel
  obtain ⟨finish, executed, keys⟩ := (Option.any_eq_true _ _).mp given
  refine ⟨finish, of_decide_eq_true keys, observed_of_run sampleRegistry_identified ⟨?_, ?_⟩
    (.of_run executed)⟩
  · intro subentryId subentry present
    cases present
  · intro flow candidate prepares
    cases prepares

/-! ## Names and actuators -/

/-- No flow stores a zone while another flow waits for its preparation. -/
def Undisturbed (entry : ZoneEntry φ) (label : FlowLabel φ) (next : ZoneEntry φ) : Prop :=
  next.subentries ≠ entry.subentries → ∀ flow, label.flow? = some flow → ∀ other, other ≠ flow →
    (entry.flows other).candidateInPreparation = none

instance [Fintype φ] (entry next : ZoneEntry φ) (label : FlowLabel φ) :
    Decidable (entry.Undisturbed label next) :=
  inferInstanceAs (Decidable (next.subentries ≠ entry.subentries → ∀ flow,
    label.flow? = some flow → ∀ other, other ≠ flow →
      (entry.flows other).candidateInPreparation = none))

/-- No two zones have a name or an actuator in common, and no candidate in preparation has one
with a zone that it does not replace. -/
structure Distinct (casefold : String → String) (entry : ZoneEntry φ) : Prop where
  zones : ∀ subentryId otherId subentry other, entry.subentries.get? subentryId = some subentry →
    entry.subentries.get? otherId = some other → subentry.subentryType = "zone" →
    other.subentryType = "zone" → subentryId ≠ otherId →
    subentry.data.Apart casefold other.data
  preparing : ∀ flow candidate subentryId,
    (entry.flows flow).candidateInPreparation = some candidate →
    (entry.flows flow).reconfigures = some subentryId →
    ∀ other ∈ otherZones entry.subentries (some subentryId), other.Apart casefold candidate

theorem apart_of_set {subentries : Dict String ZoneSubentry} {storedId : String}
    {stored : ZoneSubentry}
    (apart : ∀ subentryId otherId subentry other, subentries.get? subentryId = some subentry →
      subentries.get? otherId = some other → subentry.subentryType = "zone" →
      other.subentryType = "zone" → subentryId ≠ otherId →
      subentry.data.Apart casefold other.data)
    (clear : ∀ other ∈ otherZones subentries (some storedId), other.Apart casefold stored.data)
    (subentryId otherId : String) (subentry other : ZoneSubentry)
    (present : (subentries.set storedId stored).get? subentryId = some subentry)
    (present' : (subentries.set storedId stored).get? otherId = some other)
    (zoned : subentry.subentryType = "zone") (zoned' : other.subentryType = "zone")
    (differs : subentryId ≠ otherId) : subentry.data.Apart casefold other.data := by
  rw [Dict.get?_set] at present present'
  split at present
  · rename_i here
    obtain rfl := Option.some.inj present
    have elsewhere : otherId ≠ storedId := fun same => differs (here.trans same.symm)
    rw [if_neg elsewhere] at present'
    exact (clear _ (mem_otherZones_iff.mpr
      ⟨otherId, other, present', zoned', by simpa using elsewhere, rfl⟩)).symm
  · rename_i elsewhere
    split at present'
    · obtain rfl := Option.some.inj present'
      exact clear _ (mem_otherZones_iff.mpr
        ⟨subentryId, subentry, present, zoned, by simpa using elsewhere, rfl⟩)
    · exact apart _ _ _ _ present present' zoned zoned' differs

theorem apart_of_validateFull {hass : FlowHass} {others : List ZoneData} {candidate : ZoneData}
    {reconfigureId : Option String} (normal : candidate.normalize = candidate)
    (accepted : validateFull casefold hass others candidate reconfigureId = []) :
    ∀ other ∈ others, other.Apart casefold candidate := by
  intro other member
  obtain ⟨named, actuated⟩ :=
    differs_of_validateIdentity (validateIdentity_of_validateFull accepted) other member
  have stripped : strip candidate.identity.name = candidate.identity.name :=
    congrArg (fun data => data.identity.name) normal
  rw [stripped] at named
  exact ⟨named, actuated⟩

theorem Distinct.of_step {label : FlowLabel φ} (held : entry.Distinct casefold)
    (stepped : entry.step casefold label = some next)
    (undisturbed : entry.Undisturbed label next) : next.Distinct casefold := by
  cases step_moved stepped with
  -- A flow that only answers a form keeps its candidate or drops it.
  | answered zones flows =>
    refine ⟨by rw [zones]; exact held.zones, fun flow candidate subentryId prepares subject => ?_⟩
    rcases flows flow with same | none
    · rw [zones]
      rw [same] at prepares subject
      exact held.preparing flow candidate subentryId prepares subject
    · rw [none] at prepares
      cases prepares
  | removed removedId zones flows =>
    have kept : ∀ subentryId subentry, next.subentries.get? subentryId = some subentry →
        entry.subentries.get? subentryId = some subentry := by
      intro subentryId subentry present
      rw [zones, Dict.get?_eq_some_iff, Dict.mem_entries_erase] at present
      exact Dict.get?_eq_some_iff.mpr present.2
    constructor
    · intro subentryId otherId subentry other present present'
      exact held.zones _ _ _ _ (kept _ _ present) (kept _ _ present')
    · intro flow candidate subentryId prepares subject other member
      rw [flows] at prepares subject
      obtain ⟨otherId, subentry, present, rest⟩ := mem_otherZones_iff.mp member
      exact held.preparing flow candidate subentryId prepares subject other
        (mem_otherZones_iff.mpr ⟨otherId, subentry, kept _ _ present, rest⟩)
  -- The new zone is apart from those its last form was checked against.
  | created flow created newId acts normal accepted named absent zones others none =>
    have changed : next.subentries ≠ entry.subentries := by
      intro same
      apply absent
      rw [← same, zones, Dict.mem_keys_set]
      exact .inl rfl
    have apart := apart_of_validateFull normal accepted
    constructor
    · rw [zones]
      refine apart_of_set held.zones fun other member => ?_
      obtain ⟨otherId, subentry, present, zoned, -, same⟩ := mem_otherZones_iff.mp member
      exact apart other (mem_otherZones_iff.mpr
        ⟨otherId, subentry, present, zoned, Option.some_ne_none _, same⟩)
    · intro other candidate subentryId prepares
      by_cases same : other = flow
      · rw [same, none] at prepares
        cases prepares
      · -- No other flow prepares a candidate at that moment.
        rw [others other same, undisturbed changed flow acts other same] at prepares
        cases prepares
  | accepted flow chosen chosenId normal accepted zones others prepared reconfigures =>
    refine ⟨by rw [zones]; exact held.zones, fun other candidate subentryId prepares subject => ?_⟩
    rw [zones]
    by_cases same : other = flow
    · subst same
      rw [prepared] at prepares
      rw [reconfigures] at subject
      obtain rfl := Option.some.inj prepares
      obtain rfl := Option.some.inj subject
      exact apart_of_validateFull normal accepted
    · rw [others other same] at prepares subject
      exact held.preparing other candidate subentryId prepares subject
  -- A zone is replaced by the candidate that stayed apart from the others.
  | updated flow chosen updatedId old acts prepared reconfigures found zones others none =>
    have clear := held.preparing flow chosen updatedId prepared reconfigures
    constructor
    · rw [zones]
      exact apart_of_set held.zones clear
    · intro other candidate subentryId prepares subject
      by_cases same : other = flow
      · rw [same, none] at prepares
        cases prepares
      · rw [others other same] at prepares subject
        by_cases unchanged : next.subentries = entry.subentries
        · rw [unchanged]
          exact held.preparing other candidate subentryId prepares subject
        · rw [undisturbed unchanged flow acts other same] at prepares
          cases prepares

/-- In every interleaving in which no flow stores a zone during the preparation of another, no
two zones ever share a name or an actuator. -/
theorem distinct_of_run (initial : start.Distinct casefold)
    (reached : (system casefold).Run Undisturbed start finish) : finish.Distinct casefold :=
  reached.preserves initial fun _ _ _ held stepped undisturbed => held.of_step stepped undisturbed

theorem sampleEntry_distinct : sampleEntry.Distinct String.toLower := by
  constructor
  · intro subentryId otherId subentry other present
    cases present
  · intro flow candidate subentryId prepares
    cases prepares

/-- Two zones are added, and then one of them takes a free actuator. -/
theorem distinct_of_run_reconfigured : ∃ finish : ZoneEntry Bool,
    finish.subentries.values.map (fun subentry => subentry.data.identity.actuator) =
      ["switch.c", "switch.b"] ∧ finish.Distinct String.toLower := by
  have given : (((system String.toLower).runWhile
      (fun entry label next => decide (entry.Undisturbed label next)) sampleEntry
      ([.add false, .add true] ++ answers false "Bed" "switch.a" "zone-a" ++
        answers true "Lawn" "switch.b" "zone-b" ++ [.reconfigure false "zone-a"] ++
        answers false "Bed" "switch.c" "" ++ [.prepared false false])).any
      fun finish => decide (finish.subentries.values.map
        (fun subentry => subentry.data.identity.actuator) = ["switch.c", "switch.b"])) = true := by
    decide +kernel
  obtain ⟨finish, executed, actuators⟩ := (Option.any_eq_true _ _).mp given
  exact ⟨finish, of_decide_eq_true actuators, distinct_of_run sampleEntry_distinct
    (.of_runWhile (fun _ _ _ permitted => of_decide_eq_true permitted) executed)⟩

/-- Both zones are given the same free actuator while the other one is being prepared. -/
theorem not_distinct_overlapping : ¬ ∀ finish : ZoneEntry Bool,
    (system String.toLower).Run (fun _ _ _ => True) sampleEntry finish →
      finish.Distinct String.toLower := by
  intro claimed
  have given : (((system String.toLower).run sampleEntry
      ([.add false, .add true] ++ answers false "Bed" "switch.a" "zone-a" ++
        answers true "Lawn" "switch.b" "zone-b" ++
        [.reconfigure false "zone-a", .reconfigure true "zone-b"] ++
        answers false "Bed" "switch.c" "" ++ answers true "Lawn" "switch.c" "" ++
        [.prepared false false, .prepared true false])).any
      fun finish => decide ((finish.subentries.get? "zone-a").map
          (fun subentry => (subentry.subentryType, subentry.data.identity.actuator)) =
            some ("zone", "switch.c") ∧
        (finish.subentries.get? "zone-b").map
          (fun subentry => (subentry.subentryType, subentry.data.identity.actuator)) =
            some ("zone", "switch.c"))) = true := by
    decide +kernel
  obtain ⟨finish, executed, both⟩ := (Option.any_eq_true _ _).mp given
  obtain ⟨first, second⟩ := of_decide_eq_true both
  obtain ⟨bed, present, bedIs⟩ := Option.map_eq_some_iff.mp first
  obtain ⟨lawn, present', lawnIs⟩ := Option.map_eq_some_iff.mp second
  obtain ⟨zoned, actuated⟩ := Prod.mk.inj bedIs
  obtain ⟨zoned', actuated'⟩ := Prod.mk.inj lawnIs
  exact ((claimed finish (.of_run executed)).zones _ _ _ _ present present' zoned zoned'
    (by decide)).2 (actuated.trans actuated'.symm)

end ZoneEntry

end MoistureLoop
