import MoistureLoop.Reconciliation.Coordinator
import MoistureLoop.Runtime.Observation
import MoistureLoop.Runtime.PlanRecords
import MoistureLoop.Runtime.RegistryListeners
import MoistureLoop.Store.Updates

/-! # Renames do not change the configuration

The controllers follow renames on their own, and the next observation resolves the durable IDs
again.  Both arrive at the same entity IDs, and nothing that the fingerprints are taken of has
changed: no zone is quiesced and no reload is scheduled. -/

namespace MoistureLoop

/-- An entity that the controller of a zone listens to. -/
inductive TrackedEntity where
  | sensor (subentryId : String)
  | actuator (subentryId : String)
  deriving DecidableEq, Repr

section Renames

variable {R : Type} {asyncGet : R → RegistryLookup}

structure Followed (listeners : RegistryListeners R TrackedEntity) (entity : TrackedEntity)
    (reference : String) (hint : DurableHint) : Prop where
  referred : hint.reference = reference
  durable : hint.registryEntryId = listeners.durable entity
  identified : (listeners.durable entity).isSome
  domain : entityPrefix (listeners.address entity) = entityPrefix reference

/-- The controllers of an entry are attached: every entity with a durable ID is registered and
addressed, and both entities of every zone have one. -/
structure Attached (asyncGet : R → RegistryLookup) (hints : String → Option ZoneHints)
    (subentries : Dict String ZoneSubentry) (listeners : RegistryListeners R TrackedEntity) :
    Prop where
  finds : (asyncGet listeners.registry).FindsEntries
  addressed : ∀ entity id, listeners.durable entity = some id →
    asyncGet listeners.registry id = some ⟨id, listeners.address entity⟩
  zones : ∀ subentryId subentry, subentries.get? subentryId = some subentry →
    subentry.subentryType = "zone" → ∃ zoneHints, hints subentryId = some zoneHints ∧
      Followed listeners (.sensor subentryId) subentry.data.identity.moistureSensor
        zoneHints.sensor ∧
      Followed listeners (.actuator subentryId) subentry.data.identity.actuator
        zoneHints.actuator

/-- An update of the registry as it is documented, that removes no entity which a controller
listens to. -/
structure KeepsEntities (asyncGet : R → RegistryLookup)
    (listeners : RegistryListeners R TrackedEntity) (update : RegistryUpdate R) : Prop where
  lawful : update.Lawful asyncGet listeners.registry
  kept : ∀ entity id entityId, listeners.durable entity = some id →
    asyncGet listeners.registry id = some ⟨id, entityId⟩ → asyncGet update.registry id ≠ none

variable {hints : String → Option ZoneHints} {subentries : Dict String ZoneSubentry}
  {listeners next start finish : RegistryListeners R TrackedEntity} {update : RegistryUpdate R}

theorem Attached.of_step (attached : Attached asyncGet hints subentries listeners)
    (stepped : listeners.step asyncGet update = some next)
    (keeps : KeepsEntities asyncGet listeners update) :
    Attached asyncGet hints subentries next := by
  have same : next.durable = listeners.durable := by
    obtain rfl := Option.some.inj stepped
    rfl
  have registry : next.registry = update.registry := by
    obtain rfl := Option.some.inj stepped
    rfl
  have follows : ∀ entity id, listeners.durable entity = some id →
      asyncGet next.registry id = some ⟨id, next.address entity⟩ ∧
        entityPrefix (next.address entity) = entityPrefix (listeners.address entity) := by
    intro entity id durable
    have held := attached.addressed entity id durable
    exact RegistryListeners.address_of_step attached.finds keeps.lawful stepped durable held
      (keeps.kept entity id _ durable held)
  have moves : ∀ {entity reference hint}, Followed listeners entity reference hint →
      Followed next entity reference hint := by
    intro entity reference hint followed
    obtain ⟨id, durable⟩ := Option.isSome_iff_exists.mp followed.identified
    exact ⟨followed.referred, by rw [same]; exact followed.durable,
      by rw [same]; exact followed.identified, (follows entity id durable).2.trans followed.domain⟩
  refine ⟨registry ▸ keeps.lawful.finds, ?_, ?_⟩
  · intro entity id durable
    rw [same] at durable
    exact (follows entity id durable).1
  · intro subentryId subentry present zoned
    obtain ⟨zoneHints, hinted, sensor, actuator⟩ := attached.zones _ _ present zoned
    exact ⟨zoneHints, hinted, moves sensor, moves actuator⟩

/-! ## What a hinted reference resolves to -/

/-- A reference with a registered durable identity resolves to it, under its current name. -/
theorem resolve_of_followed (attached : Attached asyncGet hints subentries listeners)
    {entity : TrackedEntity} {reference : String} {hint : DurableHint}
    (followed : Followed listeners entity reference hint) :
    (resolveConfiguredEntity (asyncGet listeners.registry) reference (some hint)).registryEntryId =
        listeners.durable entity ∧
      (resolveConfiguredEntity (asyncGet listeners.registry) reference (some hint)).currentEntityId =
        listeners.address entity ∧
      listeners.address entity ≠ "" := by
  obtain ⟨id, durable⟩ := Option.isSome_iff_exists.mp followed.identified
  have found := attached.addressed entity id durable
  have renamed : hint.renamed (asyncGet listeners.registry) reference =
      some (id, ⟨id, listeners.address entity⟩) := by
    simp [DurableHint.renamed, followed.durable, durable, found, followed.referred,
      followed.domain]
  have filled := (attached.finds.indexed _ _ found).2
  simp [resolveConfiguredEntity, renamed, durable, filled]

variable {digest : SnapshotDigest} {timezone : String} {generation generation' : Nat}
  {subentryId : String} {subentry : ZoneSubentry} {zone : ImmutableZoneSnapshot}

/-- The zone that a subentry is observed as names the addresses of its controller. -/
theorem addresses_of_observeZone (attached : Attached asyncGet hints subentries listeners)
    (present : subentries.get? subentryId = some subentry)
    (zoned : subentry.subentryType = "zone")
    (observed : observeZone digest timezone (asyncGet listeners.registry) (hints subentryId) subentryId
      (zoneConfigFromSubentry subentry.data) = .ok zone) :
    zone.currentSensor = listeners.address (.sensor subentryId) ∧
      zone.currentActuator = listeners.address (.actuator subentryId) ∧
      zone.sensorIdentity.registryEntryId = listeners.durable (.sensor subentryId) ∧
      zone.actuatorIdentity.registryEntryId = listeners.durable (.actuator subentryId) := by
  obtain ⟨zoneHints, hinted, sensor, actuator⟩ := attached.zones _ _ present zoned
  obtain ⟨sensed, sensorNow, sensorFilled⟩ := resolve_of_followed attached sensor
  obtain ⟨commanded, actuatorNow, actuatorFilled⟩ := resolve_of_followed attached actuator
  have built := (observeZone_eq_ok_iff.mp observed).1
  rw [hinted] at built
  rw [built]
  refine ⟨?_, ?_, sensed, commanded⟩
  · show ImmutableZoneSnapshot.entityOr (some _) _ = _
    rw [← sensorNow] at sensorFilled ⊢
    exact if_neg sensorFilled
  · show ImmutableZoneSnapshot.entityOr (some _) _ = _
    rw [← actuatorNow] at actuatorFilled ⊢
    exact if_neg actuatorFilled

/-! ## What stays as it is -/

/-- What a snapshot is compared by: the fingerprint of each zone. -/
def ImmutableZoneSnapshot.printed (zone : ImmutableZoneSnapshot) : String × String :=
  (zone.subentryId, zone.configFingerprint)

/-- A subentry is observed with the same fingerprint, whatever its entities are called. -/
theorem observeZone_of_attached (before : Attached asyncGet hints subentries listeners)
    (after : Attached asyncGet hints subentries next) (same : next.durable = listeners.durable)
    (present : subentries.get? subentryId = some subentry)
    (zoned : subentry.subentryType = "zone")
    (observed : observeZone digest timezone (asyncGet listeners.registry) (hints subentryId) subentryId
      (zoneConfigFromSubentry subentry.data) = .ok zone) :
    ∃ zone', observeZone digest timezone (asyncGet next.registry) (hints subentryId) subentryId
      (zoneConfigFromSubentry subentry.data) = .ok zone' ∧ zone'.printed = zone.printed := by
  obtain ⟨zoneHints, hinted, sensor, actuator⟩ := before.zones _ _ present zoned
  obtain ⟨zoneHints', hinted', sensor', actuator'⟩ := after.zones _ _ present zoned
  obtain rfl := Option.some.inj (hinted.symm.trans hinted')
  obtain ⟨built, sensorHolds, actuatorHolds, valid⟩ := observeZone_eq_ok_iff.mp observed
  rw [hinted] at built
  have sensed := (resolve_of_followed after sensor').1.trans
    ((congrFun same _).trans (resolve_of_followed before sensor).1.symm)
  have commanded := (resolve_of_followed after actuator').1.trans
    ((congrFun same _).trans (resolve_of_followed before actuator).1.symm)
  rw [hinted]
  refine ⟨_, observeZone_eq_ok_iff.mpr ⟨rfl, ?_, ?_, valid⟩, ?_⟩
  · have identity := congrArg (fun id => AppliedEntityIdentity.mk id
      subentry.data.identity.moistureSensor (entityPrefix subentry.data.identity.moistureSensor))
      sensed
    rw [built] at sensorHolds
    exact (congrArg (fun identity => Checked.Holds identity.guards) identity).mpr sensorHolds
  · have identity := congrArg (fun id => AppliedEntityIdentity.mk id
      subentry.data.identity.actuator (entityPrefix subentry.data.identity.actuator)) commanded
    rw [built] at actuatorHolds
    exact (congrArg (fun identity => Checked.Holds identity.guards) identity).mpr actuatorHolds
  · rw [built]
    refine Prod.ext rfl ?_
    exact congrArg₂ (fun sensorId actuatorId => digest.zone timezone subentryId
      ⟨sensorId, subentry.data.identity.moistureSensor,
        entityPrefix subentry.data.identity.moistureSensor⟩
      ⟨actuatorId, subentry.data.identity.actuator, entityPrefix subentry.data.identity.actuator⟩
      (.ofConfig (zoneConfigFromSubentry subentry.data))) sensed commanded

variable {before after : ImmutableEntrySnapshot}

/-- Snapshots whose zones were observed with the same fingerprints show the same ones. -/
theorem printed_of_perm {zones zones' : List ImmutableZoneSnapshot}
    (permuted : before.zones.Perm zones) (permuted' : after.zones.Perm zones')
    (same : zones'.map ImmutableZoneSnapshot.printed = zones.map ImmutableZoneSnapshot.printed) :
    after.zones.map ImmutableZoneSnapshot.printed =
      before.zones.map ImmutableZoneSnapshot.printed := by
  have perm : (after.zones.map ImmutableZoneSnapshot.printed).Perm
      (before.zones.map ImmutableZoneSnapshot.printed) :=
    ((permuted'.map _).trans (.of_eq same)).trans (permuted.map _).symm
  have ordered : ∀ snapshot : ImmutableEntrySnapshot,
      (snapshot.zones.map ImmutableZoneSnapshot.printed).Pairwise fun left right =>
        left.1 < right.1 := fun snapshot =>
    List.pairwise_map.mpr (List.pairwise_map.mp snapshot.sorted)
  exact perm.eq_of_pairwise (fun _ _ _ _ below above => absurd above (lt_asymm below))
    (ordered after) (ordered before)

/-- Two snapshots that show the same fingerprints are one batch. -/
theorem stableBatch_of_printed (same : after.zones.map ImmutableZoneSnapshot.printed =
      before.zones.map ImmutableZoneSnapshot.printed) :
    stableBatchRequiresReload (some before) after = false := by
  simp only [stableBatchRequiresReload, List.any_eq_false]
  intro zone member
  have listed : zone.printed ∈ before.zones.map ImmutableZoneSnapshot.printed :=
    same ▸ List.mem_map_of_mem member
  obtain ⟨old, among, printed⟩ := List.mem_map.mp listed
  obtain ⟨named, fingerprint⟩ := Prod.mk.inj printed
  have found := before.bySubentryId_of_mem among
  rw [named] at found
  simp [found, fingerprint]

/-- Whatever is renamed, and however often, the next observation is of the same configuration:
no zone has another fingerprint, no reload is required, and the entity IDs it resolves are those
that the controllers have followed. -/
theorem configuration_of_renames {data : StoreFields}
    (attached : Attached asyncGet (durableIdentityHints data) subentries start)
    (reached : (RegistryListeners.system asyncGet).Run
      (fun listeners update _ => KeepsEntities asyncGet listeners update) start finish)
    (built : buildImmutableSnapshot digest timezone (asyncGet start.registry)
      (durableIdentityHints data) subentries generation = .ok before) :
    ∃ after, buildImmutableSnapshot digest timezone (asyncGet finish.registry)
        (durableIdentityHints data) subentries generation' = .ok after ∧
      after.entrySnapshotFingerprint = before.entrySnapshotFingerprint ∧
      stableBatchRequiresReload (some before) after = false ∧
      ∀ zone ∈ after.zones,
        (∃ old, before.bySubentryId zone.subentryId = some old ∧
          old.configFingerprint = zone.configFingerprint) ∧
        zone.currentSensor = finish.address (.sensor zone.subentryId) ∧
        zone.currentActuator = finish.address (.actuator zone.subentryId) := by
  have kept : finish.durable = start.durable ∧
      Attached asyncGet (durableIdentityHints data) subentries finish := by
    apply reached.preserves ⟨rfl, attached⟩
    intro state change next held stepped kept
    refine ⟨?_, held.2.of_step stepped kept⟩
    obtain rfl := Option.some.inj stepped
    exact held.1
  obtain ⟨same, attached'⟩ := kept
  obtain ⟨zones, observed, permuted, printed, -⟩ := buildImmutableSnapshot_eq_ok built
  have agrees : ∀ entry ∈ subentries.sortedEntries.filter
        (fun entry => entry.2.subentryType = "zone"), ∀ zone,
      observeZone digest timezone (asyncGet start.registry) (durableIdentityHints data entry.1) entry.1
        (zoneConfigFromSubentry entry.2.data) = .ok zone →
      ∃ zone', observeZone digest timezone (asyncGet finish.registry)
        (durableIdentityHints data entry.1) entry.1
        (zoneConfigFromSubentry entry.2.data) = .ok zone' ∧ zone'.printed = zone.printed := by
    intro entry member zone
    obtain ⟨present, zoned⟩ := List.mem_filter.mp member
    exact observeZone_of_attached attached attached' same
      (Dict.mem_sortedEntries_iff.mp present) (of_decide_eq_true zoned)
  obtain ⟨zones', observed', viewed⟩ := Codec.mapM_map_congr agrees observed
  obtain ⟨after, built'⟩ : ∃ after, buildImmutableSnapshot digest timezone (asyncGet finish.registry)
      (durableIdentityHints data) subentries generation' = .ok after := by
    unfold buildImmutableSnapshot
    split
    · exact ⟨_, rfl⟩
    · rename_i raised failed
      rw [observeZones, observed'] at failed
      cases failed
  obtain ⟨listed, relisted, permuted', printed', -⟩ := buildImmutableSnapshot_eq_ok built'
  obtain rfl : zones' = listed := Except.ok.inj (observed'.symm.trans relisted)
  have shown := printed_of_perm permuted permuted' viewed
  refine ⟨after, built', ?_, stableBatch_of_printed shown, ?_⟩
  · rw [printed, printed']
    exact congrArg digest.entry shown
  · intro zone member
    obtain ⟨subentry, present, zoned, observed⟩ := mem_of_buildImmutableSnapshot built' member
    obtain ⟨sensed, commanded, -⟩ := addresses_of_observeZone attached' present zoned observed
    refine ⟨?_, sensed, commanded⟩
    have listed : zone.printed ∈ before.zones.map ImmutableZoneSnapshot.printed :=
      shown ▸ List.mem_map_of_mem member
    obtain ⟨old, among, same⟩ := List.mem_map.mp listed
    obtain ⟨named, fingerprint⟩ := Prod.mk.inj same
    exact ⟨old, named ▸ before.bySubentryId_of_mem among, fingerprint⟩

end Renames

/-! ## A bed with a sensor and a pump -/

def getEntry (entries : List RegistryEntry) : RegistryLookup := fun key =>
  entries.find? fun entry => entry.id = key || entry.entityId = key

/-- Every entry is found, and has an ID and an entity ID. -/
def findsEntriesCheck (entries : List RegistryEntry) : Bool :=
  entries.all fun entry => decide (getEntry entries entry.id = some entry ∧
    getEntry entries entry.entityId = some entry ∧ entry.entityId ≠ "" ∧ entry.id ≠ "")

theorem finds_of_check {entries : List RegistryEntry} (checked : findsEntriesCheck entries = true) :
    (getEntry entries).FindsEntries ∧ (getEntry entries).Identified := by
  have each : ∀ key entry, getEntry entries key = some entry → getEntry entries entry.id =
      some entry ∧ getEntry entries entry.entityId = some entry ∧ entry.entityId ≠ "" ∧
      entry.id ≠ "" := fun key entry found =>
    of_decide_eq_true (List.all_eq_true.mp checked entry (List.mem_of_find?_eq_some found))
  exact ⟨⟨fun key entry found => ⟨(each key entry found).2.1, (each key entry found).2.2.1⟩,
    fun key entry found => (each key entry found).1⟩,
    fun key entry found => (each key entry found).2.2.2⟩

/-- `KeepsEntities`, decided for updates that remove no entry. -/
def keepsEntitiesCheck (listeners : RegistryListeners (List RegistryEntry) TrackedEntity)
    (update : RegistryUpdate (List RegistryEntry)) : Bool :=
  findsEntriesCheck update.registry &&
  update.renamed.all (fun names => listeners.registry.any fun entry =>
    decide (getEntry listeners.registry names.1 = some ⟨entry.id, names.1⟩ ∧
      getEntry update.registry names.2 = some ⟨entry.id, names.2⟩ ∧
      entityPrefix names.2 = entityPrefix names.1)) &&
  listeners.registry.all fun entry => (getEntry update.registry entry.id).isSome &&
    (update.renamed.any (fun names => names.1 = entry.entityId) ||
      getEntry update.registry entry.id = some entry)

theorem keepsEntities_of_check
    {listeners : RegistryListeners (List RegistryEntry) TrackedEntity}
    {update : RegistryUpdate (List RegistryEntry)}
    (checked : keepsEntitiesCheck listeners update = true) :
    KeepsEntities getEntry listeners update := by
  simp only [keepsEntitiesCheck, Bool.and_eq_true] at checked
  obtain ⟨⟨finds, renames⟩, keeps⟩ := checked
  have each : ∀ id entityId, getEntry listeners.registry id = some ⟨id, entityId⟩ →
      (getEntry update.registry id).isSome = true ∧
        ((update.renamed.any fun names => names.1 = entityId) = true ∨
          getEntry update.registry id = some ⟨id, entityId⟩) := by
    intro id entityId held
    have kept := List.all_eq_true.mp keeps _ (List.mem_of_find?_eq_some held)
    simpa using kept
  refine ⟨⟨(finds_of_check finds).1, ?_, ?_⟩, ?_⟩
  · intro old new renamed
    rw [renamed, Option.all_some] at renames
    obtain ⟨entry, -, named⟩ := List.any_eq_true.mp renames
    exact ⟨entry.id, of_decide_eq_true named⟩
  · intro id entityId held other
    obtain called | same := (each id entityId held).2
    · obtain ⟨⟨old, new⟩, renamed, named⟩ := (Option.any_eq_true _ _).mp called
      obtain rfl : old = entityId := of_decide_eq_true named
      exact absurd renamed (other new)
    · exact .inl same
  · intro entity id entityId _ held gone
    have present := (each id entityId held).1
    rw [gone] at present
    cases present

def bedEntries (sensor actuator : String) (spare : Option String) : List RegistryEntry :=
  [⟨"sensor-uuid", sensor⟩, ⟨"uuid-a", actuator⟩] ++
    (spare.map (RegistryEntry.mk "uuid-spare")).toList

def bedListeners : RegistryListeners (List RegistryEntry) TrackedEntity where
  registry := bedEntries "sensor.soil" "switch.a" none
  durable
    | .sensor "bed" => some "sensor-uuid"
    | .actuator "bed" => some "uuid-a"
    | _ => none
  address
    | .sensor _ => "sensor.soil"
    | .actuator _ => "switch.a"

def bedSubentries : Dict String ZoneSubentry :=
  Dict.empty.set "bed" ⟨"zone", "Bed", ⟨⟨"Bed", "sensor.soil", "switch.a"⟩,
    ⟨30, 40, 3600, 1200⟩, ⟨2, 7500, 14400, 21600, 7200, 30, 3600⟩⟩⟩

theorem bed_attached :
    Attached getEntry (durableIdentityHints sampleStore.toStoreFields) bedSubentries
      bedListeners := by
  refine ⟨(finds_of_check (by decide +kernel)).1, ?_, ?_⟩
  · intro entity id durable
    simp only [bedListeners] at durable ⊢
    split at durable
    · obtain rfl := Option.some.inj durable
      decide +kernel
    · obtain rfl := Option.some.inj durable
      decide +kernel
    · cases durable
  · intro subentryId subentry present zoned
    rw [bedSubentries, Dict.get?_set] at present
    split at present
    · rename_i named
      subst named
      obtain rfl := Option.some.inj present
      have hinted : durableIdentityHints sampleStore.toStoreFields "bed" =
          some ⟨⟨"sensor.soil", some "sensor-uuid"⟩, ⟨"switch.a", some "uuid-a"⟩⟩ := by
        decide +kernel
      exact ⟨_, hinted, ⟨rfl, rfl, rfl, rfl⟩, ⟨rfl, rfl, rfl, rfl⟩⟩
    · cases present

/-- The pump is renamed twice and back, the sensor once, and another pump takes a name that the
first one had. -/
def bedRenames : List (RegistryUpdate (List RegistryEntry)) :=
  [⟨bedEntries "sensor.soil" "switch.well" none, some ("switch.a", "switch.well")⟩,
    ⟨bedEntries "sensor.soil" "switch.well" (some "switch.a"), none⟩,
    ⟨bedEntries "sensor.bed" "switch.well" (some "switch.a"), some ("sensor.soil", "sensor.bed")⟩,
    ⟨bedEntries "sensor.bed" "switch.well" (some "switch.spare"),
      some ("switch.a", "switch.spare")⟩,
    ⟨bedEntries "sensor.bed" "switch.a" (some "switch.spare"), some ("switch.well", "switch.a")⟩,
    ⟨bedEntries "sensor.bed" "switch.well" (some "switch.spare"),
      some ("switch.a", "switch.well")⟩]

theorem configuration_of_renames_bed :
    ∃ (finish : RegistryListeners (List RegistryEntry) TrackedEntity)
      (before : ImmutableEntrySnapshot),
      finish.address (.actuator "bed") = "switch.well" ∧
      finish.address (.sensor "bed") = "sensor.bed" ∧
      ∃ after, buildImmutableSnapshot sampleDigest "UTC" (getEntry finish.registry)
          (durableIdentityHints sampleStore.toStoreFields) bedSubentries 2 = .ok after ∧
        after.entrySnapshotFingerprint = before.entrySnapshotFingerprint ∧
        stableBatchRequiresReload (some before) after = false ∧
        ∀ zone ∈ after.zones,
          (∃ old, before.bySubentryId zone.subentryId = some old ∧
            old.configFingerprint = zone.configFingerprint) ∧
          zone.currentSensor = finish.address (.sensor zone.subentryId) ∧
          zone.currentActuator = finish.address (.actuator zone.subentryId) := by
  obtain ⟨finish, executed, addressed⟩ := (Option.any_eq_true _ _).mp
    (show ((RegistryListeners.system getEntry).runWhile
      (fun listeners update _ => keepsEntitiesCheck listeners update) bedListeners
        bedRenames).any (fun finish =>
          decide (finish.address (.actuator "bed") = "switch.well" ∧
            finish.address (.sensor "bed") = "sensor.bed")) = true by decide +kernel)
  have reached : (RegistryListeners.system getEntry).Run
      (fun listeners update _ => KeepsEntities getEntry listeners update) bedListeners finish :=
    .of_runWhile (fun _ _ _ => keepsEntities_of_check) executed
  obtain ⟨before, built⟩ := @buildImmutableSnapshot_of_valid sampleDigest "UTC"
    (getEntry bedListeners.registry) (durableIdentityHints sampleStore.toStoreFields)
    bedSubentries 1 (finds_of_check (by decide +kernel)).2 (by
      intro subentryId subentry present zoned
      rw [bedSubentries, Dict.get?_set] at present
      split at present
      · obtain rfl := Option.some.inj present
        decide +kernel
      · cases present)
  obtain ⟨commanded, sensed⟩ := of_decide_eq_true addressed
  exact ⟨finish, before, commanded, sensed, configuration_of_renames bed_attached reached built⟩

end MoistureLoop
