import MoistureLoop.ConfigFlow.Validation
import MoistureLoop.Foundations.Codec

/-! # Observing the configuration of an entry

`_build_immutable_snapshot` over the zone subentries of an entry.  The two fingerprints are
SHA-256 digests of canonical JSON, so what is hashed is known and no digest is empty. -/

namespace MoistureLoop

open Checked

/-- `hexdigest` of the two payloads that a snapshot hashes. -/
structure SnapshotDigest where
  zone : String → String → AppliedEntityIdentity → AppliedEntityIdentity → NormalizedZoneSettings →
    String
  entry : List (String × String) → String
  zone_ne_empty : ∀ timezone subentryId sensor actuator settings,
    zone timezone subentryId sensor actuator settings ≠ ""
  entry_ne_empty : ∀ zones, entry zones ≠ ""

/-- A digest that tells zones apart by their subentry. -/
def sampleDigest : SnapshotDigest where
  zone timezone subentryId _ _ _ := "zone " ++ subentryId ++ " in " ++ timezone
  entry zones := "entry of " ++ toString zones.length
  zone_ne_empty timezone subentryId _ _ _ empty := by
    have length := congrArg String.length empty
    simp at length
  entry_ne_empty zones empty := by
    have length := congrArg String.length empty
    simp at length

/-- `immutable_entry_snapshot`. -/
def immutableEntrySnapshot (digest : SnapshotDigest) (observedGeneration : Nat)
    (zones : List ImmutableZoneSnapshot)
    (distinct : (zones.map ImmutableZoneSnapshot.subentryId).Nodup) : ImmutableEntrySnapshot :=
  let ordered := zones.insertionSort fun left right => left.subentryId ≤ right.subentryId
  { observedGeneration
    entrySnapshotFingerprint :=
      digest.entry (ordered.map fun zone => (zone.subentryId, zone.configFingerprint))
    zones := ordered
    sorted := by
      have total : Std.Total fun left right : ImmutableZoneSnapshot =>
          left.subentryId ≤ right.subentryId := ⟨fun _ _ => le_total _ _⟩
      have transitive : IsTrans ImmutableZoneSnapshot fun left right =>
          left.subentryId ≤ right.subentryId := ⟨fun _ _ _ first second => first.trans second⟩
      have ascending : ordered.Pairwise fun left right => left.subentryId ≤ right.subentryId :=
        List.pairwise_insertionSort _ _
      have apart : ordered.Pairwise fun left right => left.subentryId ≠ right.subentryId :=
        List.pairwise_map.mp (((List.perm_insertionSort _ zones).map _).nodup_iff.mpr distinct)
      exact List.pairwise_map.mpr
        (ascending.imp₂ (fun _ _ below differs => lt_of_le_of_ne below differs) apart) }

section Build

variable (digest : SnapshotDigest) (timezone : String) (lookup : RegistryLookup)

/-- The snapshot of one zone: its identities are constructed and its configuration is
validated for the fingerprint. -/
def observeZone (hints : Option ZoneHints) (subentryId : String) (config : ZoneConfig) :
    Except PyError ImmutableZoneSnapshot :=
  let zone := immutableZoneSnapshot lookup
    (fun subentryId config sensor actuator =>
      digest.zone timezone subentryId sensor actuator (.ofConfig config))
    hints subentryId config
  checkValue (fun zone => zone.sensorIdentity.guards ++ zone.actuatorIdentity.guards ++
    [(decide (config.validationErrors ≠ []), String.intercalate "; " config.validationErrors)]) zone

variable (hints : String → Option ZoneHints)

def observeZones (subentries : Dict String ZoneSubentry) :
    Except PyError (List ImmutableZoneSnapshot) :=
  (subentries.sortedEntries.filter fun entry => entry.2.subentryType = "zone").mapM fun entry =>
    observeZone digest timezone lookup (hints entry.1) entry.1 (zoneConfigFromSubentry entry.2.data)

variable {digest timezone lookup hints} {subentryId : String} {config : ZoneConfig}
  {zoneHints : Option ZoneHints} {zone : ImmutableZoneSnapshot}

theorem observeZone_eq_ok_iff :
    observeZone digest timezone lookup zoneHints subentryId config = .ok zone ↔
      zone = immutableZoneSnapshot lookup
        (fun subentryId config sensor actuator =>
          digest.zone timezone subentryId sensor actuator (.ofConfig config))
        zoneHints subentryId config ∧
      Holds zone.sensorIdentity.guards ∧ Holds zone.actuatorIdentity.guards ∧
      config.validationErrors = [] := by
  simp only [observeZone, checkValue_eq_ok_iff, holds_append, holds_cons, holds_nil, and_true,
    decide_eq_false_iff_not, not_not]
  constructor
  · rintro ⟨⟨⟨sensor, actuator⟩, valid⟩, rfl⟩
    exact ⟨rfl, sensor, actuator, valid⟩
  · rintro ⟨rfl, sensor, actuator, valid⟩
    exact ⟨⟨⟨sensor, actuator⟩, valid⟩, rfl⟩

/-- The zones that are observed are those of the subentries, in their order. -/
theorem subentryIds_of_observeZones {subentries : Dict String ZoneSubentry}
    {zones : List ImmutableZoneSnapshot}
    (observed : observeZones digest timezone lookup hints subentries = .ok zones) :
    zones.map ImmutableZoneSnapshot.subentryId =
      (subentries.sortedEntries.filter fun entry => entry.2.subentryType = "zone").map
        Prod.fst := by
  have named : ∀ (entry : String × ZoneSubentry) zone,
      observeZone digest timezone lookup (hints entry.1) entry.1
        (zoneConfigFromSubentry entry.2.data) = .ok zone → zone.subentryId = entry.1 := by
    intro entry zone built
    rw [(observeZone_eq_ok_iff.mp built).1]
    rfl
  have paired := (Codec.mapM_eq_ok_iff.mp observed).imp named
  symm
  rw [← List.forall₂_eq_eq_eq, List.forall₂_map_left_iff, List.forall₂_map_right_iff]
  exact paired.imp fun _ _ => Eq.symm

theorem nodup_of_observeZones {subentries : Dict String ZoneSubentry}
    {zones : List ImmutableZoneSnapshot}
    (observed : observeZones digest timezone lookup hints subentries = .ok zones) :
    (zones.map ImmutableZoneSnapshot.subentryId).Nodup := by
  rw [subentryIds_of_observeZones observed]
  exact subentries.nodup_sortedEntries.sublist (List.filter_sublist.map _)

end Build

/-- `_build_immutable_snapshot`. -/
def buildImmutableSnapshot (digest : SnapshotDigest) (timezone : String)
    (lookup : RegistryLookup) (hints : String → Option ZoneHints)
    (subentries : Dict String ZoneSubentry) (generation : Nat) :
    Except PyError ImmutableEntrySnapshot :=
  match observed : observeZones digest timezone lookup hints subentries with
  | .ok zones =>
    .ok (immutableEntrySnapshot digest generation zones (nodup_of_observeZones observed))
  | .error raised => .error raised

section Build

variable {digest : SnapshotDigest} {timezone : String} {lookup : RegistryLookup}
  {hints : String → Option ZoneHints} {subentries : Dict String ZoneSubentry} {generation : Nat}
  {snapshot : ImmutableEntrySnapshot}

/-- A snapshot holds the observed zones and the digest of their fingerprints. -/
theorem buildImmutableSnapshot_eq_ok
    (built : buildImmutableSnapshot digest timezone lookup hints subentries generation =
      .ok snapshot) :
    ∃ zones, observeZones digest timezone lookup hints subentries = .ok zones ∧
      snapshot.zones.Perm zones ∧ snapshot.entrySnapshotFingerprint =
        digest.entry (snapshot.zones.map fun zone => (zone.subentryId, zone.configFingerprint)) ∧
      snapshot.observedGeneration = generation := by
  unfold buildImmutableSnapshot at built
  split at built
  · rename_i zones observed
    obtain rfl := Except.ok.inj built
    exact ⟨zones, observed, List.perm_insertionSort _ _, rfl, rfl⟩
  · cases built

theorem mem_of_buildImmutableSnapshot
    (built : buildImmutableSnapshot digest timezone lookup hints subentries generation =
      .ok snapshot) {zone : ImmutableZoneSnapshot} (member : zone ∈ snapshot.zones) :
    ∃ subentry, subentries.get? zone.subentryId = some subentry ∧ subentry.subentryType = "zone" ∧
      observeZone digest timezone lookup (hints zone.subentryId) zone.subentryId
        (zoneConfigFromSubentry subentry.data) = .ok zone := by
  obtain ⟨zones, observed, same, -⟩ := buildImmutableSnapshot_eq_ok built
  obtain ⟨⟨subentryId, subentry⟩, inside, observed⟩ :=
    Codec.exists_of_mapM_eq_ok observed (same.mem_iff.mp member)
  obtain ⟨present, zoned⟩ := List.mem_filter.mp inside
  have identified : zone.subentryId = subentryId := by
    rw [(observeZone_eq_ok_iff.mp observed).1]
    rfl
  rw [identified]
  exact ⟨subentry, Dict.mem_sortedEntries_iff.mp present, of_decide_eq_true zoned, observed⟩

theorem exists_of_buildImmutableSnapshot
    (built : buildImmutableSnapshot digest timezone lookup hints subentries generation =
      .ok snapshot) {subentryId : String} {subentry : ZoneSubentry}
    (present : subentries.get? subentryId = some subentry)
    (zoned : subentry.subentryType = "zone") :
    ∃ zone ∈ snapshot.zones, zone.subentryId = subentryId := by
  obtain ⟨zones, observed, same, -⟩ := buildImmutableSnapshot_eq_ok built
  have inside : subentryId ∈ zones.map ImmutableZoneSnapshot.subentryId := by
    rw [subentryIds_of_observeZones observed]
    exact List.mem_map.mpr ⟨(subentryId, subentry), List.mem_filter.mpr
      ⟨Dict.mem_sortedEntries_iff.mpr present, decide_eq_true zoned⟩, rfl⟩
  obtain ⟨zone, member, named⟩ := List.mem_map.mp inside
  exact ⟨zone, same.mem_iff.mpr member, named⟩

/-! ## What is observed of a valid configuration -/

/-- The IDs of registry entries are not empty. -/
def RegistryLookup.Identified (lookup : RegistryLookup) : Prop :=
  ∀ key entry, lookup key = some entry → entry.id ≠ ""

theorem entityPrefix_of_entityDomain {entityId domain : String} (named : domain ≠ "")
    (inDomain : entityDomain entityId = domain) :
    entityPrefix entityId = domain ∧ entityId ≠ "" := by
  subst inDomain
  unfold entityDomain at named ⊢
  constructor
  · simp only at named ⊢
    split at named
    · exact absurd rfl named
    · rename_i complete
      rw [if_neg complete]
      rfl
  · rintro rfl
    exact named rfl

variable {subentryId : String} {config : ZoneConfig} {zoneHints : Option ZoneHints}

theorem domains_of_validationErrors (valid : config.validationErrors = []) :
    entityDomain config.moistureSensor = sensorDomain ∧
      (entityDomain config.actuator = switchDomain ∨ entityDomain config.actuator = valveDomain) := by
  simp only [ZoneConfig.validationErrors, List.append_eq_nil_iff] at valid
  obtain ⟨⟨⟨⟨⟨⟨⟨⟨⟨⟨⟨⟨⟨⟨-, sensor⟩, actuator⟩, -⟩, -⟩, -⟩, -⟩, -⟩, -⟩, -⟩, -⟩, -⟩, -⟩, -⟩, -⟩ := valid
  constructor
  · by_contra other
    rw [if_neg other] at sensor
    cases sensor
  · by_contra other
    rw [if_neg other] at actuator
    cases actuator

theorem identified_of_resolve (identified : lookup.Identified) (configuredEntityId : String)
    (hint : Option DurableHint) :
    (resolveConfiguredEntity lookup configuredEntityId hint).registryEntryId ≠ some "" := by
  unfold resolveConfiguredEntity
  split
  · rename_i durable entry renamed
    obtain ⟨hint, -, renamed⟩ := Option.bind_eq_some_iff.mp renamed
    simp only [DurableHint.renamed, Option.bind_eq_bind, Option.bind_eq_some_iff] at renamed
    obtain ⟨durable', -, entry', found, chosen⟩ := renamed
    obtain ⟨-, same⟩ := Option.ite_none_right_eq_some.mp chosen
    obtain ⟨-, rfl⟩ := Prod.mk.inj (Option.some.inj same)
    exact fun empty => identified _ _ found (Option.some.inj empty)
  · split
    · rename_i entry found
      exact fun empty => identified _ _ found (Option.some.inj empty)
    · intro empty
      cases empty

/-- A configuration within every bound is observed. -/
theorem observeZone_of_valid (identified : lookup.Identified)
    (valid : config.validationErrors = []) :
    ∃ zone, observeZone digest timezone lookup zoneHints subentryId config = .ok zone := by
  obtain ⟨sensor, actuator⟩ := domains_of_validationErrors valid
  have sensed := entityPrefix_of_entityDomain (by decide) sensor
  have commanded : entityPrefix config.actuator = entityDomain config.actuator ∧
      config.actuator ≠ "" := by
    refine entityPrefix_of_entityDomain ?_ rfl
    rcases actuator with named | named <;> rw [named] <;> decide
  refine ⟨_, observeZone_eq_ok_iff.mpr ⟨rfl, ?_, ?_, valid⟩⟩
  · simp [AppliedEntityIdentity.guards, immutableZoneSnapshot, sensed, sensor,
      identified_of_resolve identified]
  · simp [AppliedEntityIdentity.guards, immutableZoneSnapshot, commanded,
      identified_of_resolve identified]

theorem buildImmutableSnapshot_of_valid (identified : lookup.Identified)
    (valid : ∀ subentryId subentry, subentries.get? subentryId = some subentry →
      subentry.subentryType = "zone" →
      (zoneConfigFromSubentry subentry.data).validationErrors = []) :
    ∃ snapshot, buildImmutableSnapshot digest timezone lookup hints subentries generation =
      .ok snapshot := by
  have observed : ∀ entries : List (String × ZoneSubentry),
      (∀ entry ∈ entries, (zoneConfigFromSubentry entry.2.data).validationErrors = []) →
      ∃ zones, entries.mapM (fun entry => observeZone digest timezone lookup (hints entry.1)
        entry.1 (zoneConfigFromSubentry entry.2.data)) = .ok zones := by
    intro entries
    induction entries with
    | nil => exact fun _ => ⟨[], rfl⟩
    | cons entry rest ih =>
      intro each
      obtain ⟨others, following⟩ := ih fun other member => each other (List.mem_cons_of_mem _ member)
      obtain ⟨zone, built⟩ := observeZone_of_valid identified (each entry List.mem_cons_self)
      exact ⟨zone :: others, Codec.mapM_eq_ok_iff.mpr
        (.cons built (Codec.mapM_eq_ok_iff.mp following))⟩
  obtain ⟨zones, observed⟩ := observed
    (subentries.sortedEntries.filter fun entry => entry.2.subentryType = "zone") (by
      rintro ⟨subentryId, subentry⟩ member
      obtain ⟨present, zoned⟩ := List.mem_filter.mp member
      exact valid subentryId subentry (Dict.mem_sortedEntries_iff.mp present)
        (of_decide_eq_true zoned))
  unfold buildImmutableSnapshot
  split
  · exact ⟨_, rfl⟩
  · rename_i raised failed
    rw [observeZones, observed] at failed
    cases failed

/-- The canonical shadow of an observed zone passes the checks of its constructor. -/
theorem appliedShadow_of_observeZone {zone : ImmutableZoneSnapshot} {fingerprint : String}
    (named : subentryId ≠ "") (digested : fingerprint ≠ "")
    (observed : observeZone digest timezone lookup zoneHints subentryId config = .ok zone) :
    Holds (zone.appliedShadow fingerprint generation).guards := by
  obtain ⟨rfl, sensor, actuator, valid⟩ := observeZone_eq_ok_iff.mp observed
  obtain ⟨sensed, commanded⟩ := domains_of_validationErrors valid
  have sensed := (entityPrefix_of_entityDomain (by decide) sensed).1
  have commanded : entityPrefix config.actuator = switchDomain ∨
      entityPrefix config.actuator = valveDomain := by
    rcases commanded with named | named
    · exact .inl (entityPrefix_of_entityDomain (by decide) named).1
    · exact .inr (entityPrefix_of_entityDomain (by decide) named).1
  have within : ((NormalizedZoneSettings.ofConfig config).toConfig config.moistureSensor
      config.actuator).validationErrors = [] := by
    rw [NormalizedZoneSettings.toConfig_ofConfig]
    exact valid
  simp only [AppliedConfigurationShadow.guards, holds_append]
  refine ⟨⟨sensor, actuator⟩, ?_⟩
  simp only [holds_cons, holds_nil, and_true]
  refine ⟨?_, ?_, ?_, ?_⟩
  · simp [ImmutableZoneSnapshot.appliedShadow, immutableZoneSnapshot, named, digested,
      digest.zone_ne_empty]
  · exact decide_eq_false (not_not.mpr sensed)
  · exact Bool.and_eq_false_iff.mpr (commanded.imp
      (fun same => decide_eq_false (not_not.mpr same))
      fun same => decide_eq_false (not_not.mpr same))
  · exact decide_eq_false (not_not.mpr within)

end Build

end MoistureLoop
