import MoistureLoop.Store.RoundTrip
import MoistureLoop.Store.Updates

/-! # Read-back of the complete store

A store that is checked and meets the demands of the strict reader comes back as it was
without the live-only session fields, in exactly the stores that keep every value under
its own ID.  What the reader accepts is written and read to the same store, and the
schema-2 upgrade reads the payload with a null proof in every record. -/

namespace MoistureLoop

open Checked (Holds)
open Payload (ofOption ofEnum ofWhole field)

variable {py : PyRuntime}

namespace StoreFields

/-- Every value is kept under its own ID. -/
structure KeyedById (data : StoreFields) : Prop where
  histories : ∀ k history, data.zoneHistories.get? k = some history → history.zoneHistoryId = k
  records : ∀ k record, data.safetyRecords.get? k = some record → record.safetyRecordId = k

/-- The parts are checked as they are constructed, the whole by `validate_store_data`. -/
structure Validated (data : StoreFields) : Prop where
  histories : ∀ k history, data.zoneHistories.get? k = some history → Holds history.guards
  records : ∀ k record, data.safetyRecords.get? k = some record → Holds record.guards
  store : Holds data.validateStoreData

/-- What the strict reader demands of a store beyond its check. -/
structure Strict (py : PyRuntime) (data : StoreFields) : Prop where
  activeRunId : data.run.activeRunId ≠ some ""
  lastCleanShutdownRunId : data.run.lastCleanShutdownRunId ≠ some ""
  histories : ∀ k history, data.zoneHistories.get? k = some history → history.Strict py
  records : ∀ k record, data.safetyRecords.get? k = some record → record.Strict py

/-- Python's equality of two stores: dictionaries are compared by lookup. -/
structure Same (left right : StoreFields) : Prop where
  generationId : left.generationId = right.generationId
  storeRevision : left.storeRevision = right.storeRevision
  run : left.run = right.run
  histories : ∀ k, left.zoneHistories.get? k = right.zoneHistories.get? k
  records : ∀ k, left.safetyRecords.get? k = right.safetyRecords.get? k

theorem Same.refl (data : StoreFields) : data.Same data :=
  ⟨rfl, rfl, rfl, fun _ => rfl, fun _ => rfl⟩

theorem Same.trans {first second third : StoreFields} (left : first.Same second)
    (right : second.Same third) : first.Same third where
  generationId := left.generationId.trans right.generationId
  storeRevision := left.storeRevision.trans right.storeRevision
  run := left.run.trans right.run
  histories k := (left.histories k).trans (right.histories k)
  records k := (left.records k).trans (right.records k)

/-! ## Checks are about lookups -/

theorem Consistent.congr {left right : StoreFields} (consistent : right.Consistent)
    (same : left.Same right) : left.Consistent := by
  obtain ⟨generation, revision, histories, records, historyKey, recordKey, lineage,
    recordSubentry, historySubentry, recordHistory, sessionOwner, contributionSource,
    contributionHistory⟩ := consistent
  constructor
  all_goals simp only [same.generationId, same.storeRevision, same.histories, same.records]
  all_goals assumption

theorem get?_persisted {data : StoreFields} {k : String} {history : ZoneHistory} :
    data.persisted.zoneHistories.get? k = some history ↔
      ∃ held, data.zoneHistories.get? k = some held ∧ history = held.persisted := by
  rw [persisted, Dict.get?_mapValues, Option.map_eq_some_iff]
  simp only [eq_comm]

/-- Dropping the live-only fields keeps a store consistent. -/
theorem Consistent.persisted {data : StoreFields} (consistent : data.Consistent) :
    data.persisted.Consistent where
  generation := consistent.generation
  revision := consistent.revision
  histories k history found := by
    obtain ⟨held, original, rfl⟩ := get?_persisted.mp found
    rw [ZoneHistory.guards_persisted]
    exact consistent.histories k held original
  records := consistent.records
  historyKey k history found := by
    obtain ⟨held, original, rfl⟩ := get?_persisted.mp found
    exact consistent.historyKey k held original
  recordKey := consistent.recordKey
  lineage := consistent.lineage
  recordSubentry := consistent.recordSubentry
  historySubentry k k' history history' subentry found found' := by
    obtain ⟨held, original, rfl⟩ := get?_persisted.mp found
    obtain ⟨held', original', rfl⟩ := get?_persisted.mp found'
    exact consistent.historySubentry k k' held held' subentry original original'
  recordHistory k record found := by
    obtain ⟨history, held, owned⟩ := consistent.recordHistory k record found
    exact ⟨history.persisted, get?_persisted.mpr ⟨history, held, rfl⟩, owned⟩
  sessionOwner k history session found given := by
    obtain ⟨held, original, rfl⟩ := get?_persisted.mp found
    obtain ⟨live, owned, rfl⟩ := Option.map_eq_some_iff.mp given
    exact consistent.sessionOwner k held live original owned
  contributionSource k history contribution found := by
    obtain ⟨held, original, rfl⟩ := get?_persisted.mp found
    exact consistent.contributionSource k held contribution original
  contributionHistory k k' history history' id found found' := by
    obtain ⟨held, original, rfl⟩ := get?_persisted.mp found
    obtain ⟨held', original', rfl⟩ := get?_persisted.mp found'
    exact consistent.contributionHistory k k' held held' id original original'

theorem sameSet_self (texts : List String) : sameSet texts texts = true := by
  simp [sameSet]

/-- The reference guards are the source's, with the map keys compared entry by entry. -/
theorem holds_referenceGuards_iff {data : StoreFields} :
    Holds data.referenceGuards ↔ Holds data.validateStoreData ∧ data.KeyedById := by
  have historyKeys : (data.zoneHistories.entries.any fun entry =>
      entry.2.zoneHistoryId ≠ entry.1) = false ↔
      ∀ k history, data.zoneHistories.get? k = some history → history.zoneHistoryId = k := by
    simp [Dict.get?_eq_some_iff]
  have recordKeys : (data.safetyRecords.entries.any fun entry =>
      entry.2.safetyRecordId ≠ entry.1) = false ↔
      ∀ k record, data.safetyRecords.get? k = some record → record.safetyRecordId = k := by
    simp [Dict.get?_eq_some_iff]
  simp only [referenceGuards, validateStoreData, crossGuards, Checked.holds_append,
    Checked.holds_cons, historyKeys, recordKeys]
  constructor
  · rintro ⟨⟨⟨⟨generation, revision, histories, records, rest⟩, references⟩, sessions⟩,
      contributions⟩
    have historySet : data.zoneHistories.values.map ZoneHistory.zoneHistoryId =
        data.zoneHistories.keys := by
      rw [Dict.values, Dict.keys, List.map_map]
      exact List.map_congr_left fun entry member =>
        histories entry.1 entry.2 (Dict.get?_eq_some_iff.mpr member)
    have recordSet : data.safetyRecords.values.map SafetyRecord.safetyRecordId =
        data.safetyRecords.keys := by
      rw [Dict.values, Dict.keys, List.map_map]
      exact List.map_congr_left fun entry member =>
        records entry.1 entry.2 (Dict.get?_eq_some_iff.mpr member)
    rw [historySet, recordSet, sameSet_self, sameSet_self]
    exact ⟨⟨⟨⟨⟨generation, revision, rfl, rfl, rest⟩, references⟩, sessions⟩, contributions⟩,
      histories, records⟩
  · rintro ⟨⟨⟨⟨⟨generation, revision, -, -, rest⟩, references⟩, sessions⟩, contributions⟩,
      histories, records⟩
    exact ⟨⟨⟨⟨generation, revision, histories, records, rest⟩, references⟩, sessions⟩,
      contributions⟩

theorem Validated.consistent {data : StoreFields} (validated : data.Validated)
    (keyed : data.KeyedById) : data.Consistent := by
  refine holds_guards_iff.mp ?_
  have reference := holds_referenceGuards_iff.mpr ⟨validated.store, keyed⟩
  simp only [guards, Checked.holds_append, Checked.holds_flatMap, Dict.mem_values_iff_get?,
    forall_exists_index]
  exact ⟨⟨fun history k found => validated.histories k history found,
    fun record k found => validated.records k record found⟩, reference⟩

theorem Consistent.keyedById {data : StoreFields} (consistent : data.Consistent) :
    data.KeyedById :=
  ⟨consistent.historyKey, consistent.recordKey⟩

theorem Consistent.validated {data : StoreFields} (consistent : data.Consistent) :
    data.Validated where
  histories := consistent.histories
  records := consistent.records
  store := by
    have holds := holds_guards_iff.mpr consistent
    simp only [guards, Checked.holds_append] at holds
    exact (holds_referenceGuards_iff.mp holds.2).1

/-! ## Writing and reading a store -/

/-- The store is written, and reading it back gives it without its live-only fields. -/
def RoundTrips (py : PyRuntime) (data : StoreFields) : Prop :=
  ∃ written again, storeDataToDict py data = .ok written ∧
    storeDataFromDict py written = .ok again ∧ again.toStoreFields.Same data.persisted

end StoreFields

theorem requireSchemaVersion_current :
    requireSchemaVersion (.int storeSchemaVersion) = .ok () := by
  simp [requireSchemaVersion]

theorem zoneHistories_readBack {data : StoreFields} (consistent : data.Consistent)
    (strict : data.Strict py) :
    ∃ built, Dict.ofEntriesM (zoneHistoryFromDict py) (data.zoneHistories.sortedEntries.map
        fun entry => (entry.1, .dict (zoneHistoryToDict py entry.2))) = .ok built ∧
      ∀ k, built.get? k = data.persisted.zoneHistories.get? k := by
  obtain ⟨built, reads, found⟩ := @Dict.ofEntriesM_map _ _ _ _ _ _ (zoneHistoryFromDict py)
    (fun history => .dict (zoneHistoryToDict py history)) ZoneHistory.persisted
    data.zoneHistories.sortedEntries data.zoneHistories.nodup_sortedEntries
    (fun k history member => by
      have held := Dict.mem_sortedEntries_iff.mp member
      have read := zoneHistoryFromDict_zoneHistoryToDict (consistent.histories k history held)
        (strict.histories k history held)
      rwa [consistent.historyKey k history held] at read)
  refine ⟨built, reads, fun k => Option.ext fun history => ?_⟩
  rw [found, StoreFields.get?_persisted]
  simp only [Dict.mem_sortedEntries_iff]

theorem safetyRecords_readBack {data : StoreFields} (consistent : data.Consistent)
    (strict : data.Strict py) :
    ∃ built, Dict.ofEntriesM (safetyRecordFromDict py) (data.safetyRecords.sortedEntries.map
        fun entry => (entry.1, .dict (safetyRecordToDict py entry.2))) = .ok built ∧
      ∀ k, built.get? k = data.safetyRecords.get? k := by
  obtain ⟨built, reads, found⟩ := @Dict.ofEntriesM_map _ _ _ _ _ _ (safetyRecordFromDict py)
    (fun record => .dict (safetyRecordToDict py record)) id
    data.safetyRecords.sortedEntries data.safetyRecords.nodup_sortedEntries
    (fun k record member => by
      have held := Dict.mem_sortedEntries_iff.mp member
      have read := safetyRecordFromDict_safetyRecordToDict (consistent.records k record held)
        (strict.records k record held)
      rwa [consistent.recordKey k record held] at read)
  refine ⟨built, reads, fun k => Option.ext fun record => ?_⟩
  rw [found]
  simp [Dict.mem_sortedEntries_iff]

/-- A store that keeps every value under its ID comes back as it was. -/
theorem StoreFields.Consistent.roundTrips {data : StoreFields} (consistent : data.Consistent)
    (strict : data.Strict py) : data.RoundTrips py := by
  obtain ⟨histories, histories_read, histories_same⟩ :=
    zoneHistories_readBack consistent strict
  obtain ⟨records, records_read, records_same⟩ := safetyRecords_readBack consistent strict
  let again : StoreFields :=
    ⟨data.generationId, data.storeRevision, data.run, histories, records⟩
  have same : again.Same data.persisted :=
    ⟨rfl, rfl, rfl, histories_same, records_same⟩
  have checked := (consistent.persisted.congr same).check
  refine ⟨.dict (storeEntries py data),
    ⟨again, StoreFields.holds_guards_iff.mpr (consistent.persisted.congr same)⟩, ?_, ?_, same⟩
  · rw [storeDataToDict, construct_of_holds consistent.validated.store]
    rfl
  · simp only [storeDataFromDict, entriesOf, Except.ok_bind, storeEntries, Payload.field_cons,
      ↓reduceIte, requireSchemaVersion_current]
    rw [requireExactKeys_eq_ok]
    case same => rfl
    simp only [Except.ok_bind, Payload.field_cons, String.reduceEq, ↓reduceIte,
      strictString_str _ consistent.generation, strictInt_int _ consistent.revision]
    rw [requireExactKeys_eq_ok]
    case same => rfl
    simp only [Except.ok_bind, Payload.field_cons, String.reduceEq, ↓reduceIte,
      strictStringOrNull_ofOption _ strict.activeRunId,
      strictStringOrNull_ofOption _ strict.lastCleanShutdownRunId, histories_read,
      records_read]
    show rewrap _ (again.check.mapError DecodeError.ofPyError) = _
    rw [checked]
    rfl

theorem check_mapError_eq_ok_iff {data : StoreFields} {checked : StoreData} :
    data.check.mapError DecodeError.ofPyError = .ok checked ↔ checked.toStoreFields = data := by
  rw [← StoreFields.check_eq_ok_iff]
  cases data.check <;> simp [Except.mapError]

/-- The reader accepts only stores that meet its demands, and sets no live-only field. -/
theorem strict_of_storeDataFromDict {raw : Payload} {data : StoreData}
    (read : storeDataFromDict py raw = .ok data) :
    data.toStoreFields.Strict py ∧ data.toStoreFields.persisted.Same data.toStoreFields := by
  simp only [storeDataFromDict, Except.bind_eq_ok_iff, rewrap_eq_ok_iff,
    check_mapError_eq_ok_iff] at read
  obtain ⟨entries, -, -, -, stored, -, generation, -, revision, -, runRaw, -, active,
    active_read, clean, clean_read, historiesRaw, -, recordsRaw, -, histories, histories_read,
    records, records_read, same⟩ := read
  rw [same]
  have history : ∀ k history, histories.get? k = some history →
      history.zoneHistoryId = k ∧ history.Strict py ∧ history.persisted = history := by
    intro k history held
    obtain ⟨raw, -, read⟩ := Dict.get?_of_ofEntriesM histories_read held
    exact strict_of_zoneHistoryFromDict read
  refine ⟨⟨?_, ?_, ?_, ?_⟩, ⟨rfl, rfl, rfl, fun k => ?_, fun _ => rfl⟩⟩
  · exact ne_empty_of_strictStringOrNull active_read
  · exact ne_empty_of_strictStringOrNull clean_read
  · exact fun k held found => (history k held found).2.1
  · intro k record held
    obtain ⟨raw, -, read⟩ := Dict.get?_of_ofEntriesM records_read held
    exact (strict_of_safetyRecordFromDict read).2
  · refine Option.ext fun held => ?_
    rw [StoreFields.get?_persisted]
    constructor
    · rintro ⟨original, found, rfl⟩
      rw [(history k original found).2.2]
      exact found
    · intro found
      exact ⟨held, found, (history k held found).2.2.symm⟩

/-- Only a store that keeps every value under its ID comes back as it was: the reader takes
the IDs of its values from the keys. -/
theorem StoreFields.RoundTrips.keyedById {data : StoreFields} (roundTrips : data.RoundTrips py) :
    data.KeyedById := by
  obtain ⟨written, again, -, -, same⟩ := roundTrips
  constructor
  · intro k history held
    have found : again.zoneHistories.get? k = some history.persisted := by
      rw [same.histories]
      exact StoreFields.get?_persisted.mpr ⟨history, held, rfl⟩
    exact again.consistent.historyKey k history.persisted found
  · intro k record held
    have found : again.safetyRecords.get? k = some record := by
      rw [same.records]
      exact held
    exact again.consistent.recordKey k record found

/-! ## The schema-2 upgrade -/

/-- A payload of the current schema with a null proof in every record. -/
def withNullAcks : Payload → Payload
  | .dict entries => .dict (withField (withField entries "version" (.int storeSchemaVersion))
      "safety_records" (match field entries "safety_records" with
        | .dict records => .dict (records.map fun entry => (entry.1, match entry.2 with
            | .dict record => .dict (withField record "removed_actuator_ack" .null)
            | other => other))
        | other => other))
  | other => other

theorem field_withField (entries : List (String × Payload)) (key : String) (value : Payload) :
    field (withField entries key value) key = value := by
  unfold withField
  split
  · rename_i present
    induction entries with
    | nil => simp at present
    | cons entry rest ih =>
      by_cases same : entry.1 = key
      · simp [same]
      · have later : key ∈ rest.map Prod.fst := by
          rw [List.map_cons, List.mem_cons] at present
          exact present.resolve_left fun equal => same equal.symm
        rw [List.map_cons, if_neg same, Payload.field_cons, if_neg (Ne.symm same), ih later]
  · rename_i absent
    induction entries with
    | nil => simp
    | cons entry rest ih =>
      rw [List.map_cons, List.mem_cons, not_or] at absent
      rw [List.cons_append, Payload.field_cons, if_neg absent.1, ih absent.2]

theorem upgradeRecord_eq {raw upgraded : Payload} (upgrades : upgradeRecord raw = .ok upgraded) :
    ∃ record, raw = .dict record ∧
      upgraded = .dict (withField record "removed_actuator_ack" .null) := by
  cases raw with
  | dict record =>
    refine ⟨record, rfl, ?_⟩
    simp only [upgradeRecord, entriesOf, Except.ok_bind] at upgrades
    split at upgrades
    · cases upgrades
    · exact (Except.ok.inj upgrades).symm
  | _ => cases upgrades

theorem upgradedRecords_eq {records upgraded : List (String × Payload)}
    (upgrades : (records.mapM fun entry =>
      (upgradeRecord entry.2).map fun record => (entry.1, record)) = .ok upgraded) :
    upgraded = records.map fun entry => (entry.1, match entry.2 with
      | .dict record => .dict (withField record "removed_actuator_ack" .null)
      | other => other) := by
  induction records generalizing upgraded with
  | nil => simpa [eq_comm] using upgrades
  | cons entry rest ih =>
    rw [List.mapM_cons] at upgrades
    obtain ⟨first, upgraded_first, others⟩ := Except.bind_eq_ok_iff.mp upgrades
    obtain ⟨tail, upgraded_rest, built⟩ := Except.bind_eq_ok_iff.mp others
    obtain rfl : first :: tail = upgraded := by simpa using built
    cases single : upgradeRecord entry.2 with
    | error err => simp [single, Except.map] at upgraded_first
    | ok record =>
      obtain rfl : (entry.1, record) = first := by
        simpa [single, Except.map] using upgraded_first
      obtain ⟨original, given, rfl⟩ := upgradeRecord_eq single
      rw [List.map_cons, given, ih upgraded_rest]

/-- The upgrade reads the payload with a null proof in every record. -/
theorem storeDataFromDict_withNullAcks {raw : Payload} {data : StoreData}
    (migrated : migrateSchema2ToSchema3 py raw = .ok data) :
    storeDataFromDict py (withNullAcks raw) = .ok data := by
  cases raw with
  | dict entries =>
    simp only [migrateSchema2ToSchema3, entriesOf, Except.ok_bind] at migrated
    split at migrated
    · cases migrated
    · cases stored : field entries "safety_records" with
      | dict records =>
        rw [stored] at migrated
        simp only [Except.ok_bind] at migrated
        obtain ⟨upgraded, upgrades, read⟩ := Except.bind_eq_ok_iff.mp migrated
        simp only [withNullAcks, stored]
        rw [← upgradedRecords_eq upgrades]
        exact read
      | _ =>
        rw [stored] at migrated
        cases migrated
  | _ => cases migrated

theorem removedActuatorAck_of_null {recordId : String} {entries : List (String × Payload)}
    {record : SafetyRecord} (null : field entries "removed_actuator_ack" = .null)
    (read : safetyRecordFromDict py recordId (.dict entries) = .ok record) :
    record.removedActuatorAck = none := by
  simp only [safetyRecordFromDict, Except.bind_eq_ok_iff, construct_eq_ok_iff] at read
  obtain ⟨stableId, -, data, exactly, ack, ack_read, incident, -, zone, -, active, -, previous, -,
    lineage, -, history, -, historical, -, lifecycle, -, shadow, -, actuator, -, blockers, -,
    owner, -, fault, -, acknowledgement, -, -, rfl⟩ := read
  rw [eq_of_requireExactKeys exactly, null] at ack_read
  exact (Except.ok.inj ack_read).symm

/-- No record of an upgraded store carries a proof. -/
theorem removedActuatorAck_of_withNullAcks {raw : Payload} {data : StoreData}
    (read : storeDataFromDict py (withNullAcks raw) = .ok data) {k : String}
    {record : SafetyRecord} (held : data.safetyRecords.get? k = some record) :
    record.removedActuatorAck = none := by
  cases raw with
  | dict entries =>
    simp only [withNullAcks, storeDataFromDict, entriesOf, Except.ok_bind,
      Except.bind_eq_ok_iff, rewrap_eq_ok_iff, check_mapError_eq_ok_iff] at read
    obtain ⟨-, -, stored, exactly, generation, -, revision, -, runRaw, -, active, -, clean, -,
      historiesRaw, -, recordsRaw, given, histories, -, records, built, same⟩ := read
    rw [eq_of_requireExactKeys exactly, field_withField] at given
    have found : records.get? k = some record := by
      rw [← held, same]
    obtain ⟨written, member, recordRead⟩ := Dict.get?_of_ofEntriesM built found
    cases stored : field entries "safety_records" with
    | dict originals =>
      rw [stored] at given
      obtain rfl := Except.ok.inj given
      obtain ⟨original, -, equal⟩ := List.mem_map.mp member
      obtain ⟨rfl, rfl⟩ := Prod.mk.inj equal
      cases object : original.2 with
      | dict fields =>
        rw [object] at recordRead
        exact removedActuatorAck_of_null (field_withField _ _ _) recordRead
      | _ =>
        rw [object] at recordRead
        simp [safetyRecordFromDict, requireExactKeys, Except.bind_eq_ok_iff] at recordRead
    | _ =>
      rw [stored] at given
      cases given
  | _ => simp [withNullAcks, storeDataFromDict, entriesOf] at read

/-! ## The stored form -/

/-- What was read is written, and the written form is read to the same store. -/
def StoreData.ReadsBack (py : PyRuntime) (data : StoreData) : Prop :=
  ∃ written again, storeDataToDict py data.toStoreFields = .ok written ∧
    storeDataFromDict py written = .ok again ∧ again.toStoreFields.Same data.toStoreFields

/-- A checked store within the demands of the reader round trips exactly if it keeps every
value under its own ID.  Whatever the reader accepts reads back as it is, and whatever the
schema-2 upgrade accepts is the payload with a null proof in every record. -/
theorem storedForm_roundTrips (py : PyRuntime) :
    (∀ data : StoreFields, data.Validated → data.Strict py →
      (data.RoundTrips py ↔ data.KeyedById)) ∧
    (∀ raw data, storeDataFromDict py raw = .ok data → data.ReadsBack py) ∧
    ∀ raw data, migrateSchema2ToSchema3 py raw = .ok data →
      storeDataFromDict py (withNullAcks raw) = .ok data ∧
      ∀ k record, data.safetyRecords.get? k = some record →
        record.removedActuatorAck = none := by
  refine ⟨fun data validated strict => ?_, fun raw data read => ?_, fun raw data migrated => ?_⟩
  · constructor
    · exact StoreFields.RoundTrips.keyedById
    · exact fun keyed => (validated.consistent keyed).roundTrips strict
  · obtain ⟨strict, unchanged⟩ := strict_of_storeDataFromDict read
    obtain ⟨written, again, writes, reads, same⟩ := data.consistent.roundTrips strict
    exact ⟨written, again, writes, reads, same.trans unchanged⟩
  · have read := storeDataFromDict_withNullAcks migrated
    exact ⟨read, fun k record held => removedActuatorAck_of_withNullAcks read held⟩

/-! ## Sample stores -/

/-- A runtime that knows the epoch and its day. -/
def epochRuntime : PyRuntime where
  isoformat _ := "1970-01-01T00:00:00+00:00"
  fromisoformat text := if text = "1970-01-01T00:00:00+00:00" then some ⟨0, some 0⟩ else none
  dateIsoformat _ := "1970-01-01"
  dateFromisoformat text := if text = "1970-01-01" then some 0 else none
  floatOfInt number := some number
  repr _ := "..."
  IsDatetime instant := instant = 0
  IsDate day := day = 0
  fromisoformat_isoformat := by simp
  isDatetime_of_fromisoformat text instant parsed := by
    split at parsed
    · simpa [eq_comm] using parsed
    · cases parsed
  dateFromisoformat_dateIsoformat := by simp
  isDate_of_dateFromisoformat text day parsed := by
    split at parsed
    · simpa [eq_comm] using parsed
    · cases parsed

/-- The checks of a small store, evaluated. -/
theorem StoreFields.validated_of_values {data : StoreFields}
    (holds : (∀ history ∈ data.zoneHistories.values, Holds history.guards) ∧
      (∀ record ∈ data.safetyRecords.values, Holds record.guards) ∧
      Holds data.validateStoreData) : data.Validated where
  histories _ history held := holds.1 history (Dict.mem_values_iff_get?.mpr ⟨_, held⟩)
  records _ record held := holds.2.1 record (Dict.mem_values_iff_get?.mpr ⟨_, held⟩)
  store := holds.2.2

/-- The sample history in a soak whose last recheck is still in memory. -/
def recheckedHistory : ZoneHistory :=
  { sampleHistory "history-a" "bed" with
    zoneRuntime := { (sampleHistory "history-a" "bed").zoneRuntime with
      state := .soaking
      session := some ⟨"record-a",
        { sessionId := "session"
          ownerRunId := "run"
          configFingerprint := "fingerprint"
          mode := .auto
          startedAtUtc := 0
          cycle := 1
          pulseIntentAtUtc := some 0
          offConfirmedAtUtc := some 0
          lastRecheckValue := some 40 }⟩ } }

def recheckedStore : StoreFields :=
  { sampleStore.toStoreFields with
    zoneHistories := ⟨[("history-a", recheckedHistory)], by decide +kernel⟩ }

theorem sampleRecord_strict (recordId subentryId historyId registryId actuator : String) :
    (sampleRecord recordId subentryId historyId registryId actuator).Strict epochRuntime where
  historical := by simp [sampleRecord]
  settings := by
    rintro shadow ⟨rfl⟩
    refine ⟨?_, ?_, ?_, ?_⟩ <;>
      simp [sampleShadow, NormalizedZoneSettings.ofConfig, sampleConfig]
    simp only [NormalizedZoneSettings.wholes, List.forall_mem_cons]
    exact ⟨⟨60, rfl⟩, ⟨600, rfl⟩, ⟨600, rfl⟩, ⟨1200, rfl⟩, ⟨900, rfl⟩, ⟨3600, rfl⟩, ⟨30, rfl⟩,
      ⟨300, rfl⟩, by simp⟩
  actuatorIdentity := by
    rintro timeout ⟨rfl⟩
    exact ⟨30, rfl⟩
  removedAck := by
    rintro ack impossible
    cases impossible

theorem recheckedStore_strict : recheckedStore.Strict epochRuntime where
  activeRunId := by decide +kernel
  lastCleanShutdownRunId := by decide +kernel
  histories k history held := by
    rw [recheckedStore, Dict.get?_eq_some_iff] at held
    obtain ⟨-, rfl⟩ : k = "history-a" ∧ history = recheckedHistory := by simpa using held
    refine ⟨by simp [recheckedHistory, sampleHistory], by simp [recheckedHistory, sampleHistory],
      ?_, by simp [recheckedHistory, sampleHistory], ?_⟩
    · rintro daily ⟨rfl⟩
      exact ⟨rfl, by simp⟩
    · rintro session ⟨rfl⟩
      refine ⟨by decide +kernel, by decide +kernel, by decide +kernel, by decide +kernel,
        by decide +kernel, ?_⟩
      simp [SessionContext.instants, epochRuntime]
  records k record held := by
    have found : (k, record) ∈ sampleStore.safetyRecords.entries :=
      Dict.get?_eq_some_iff.mp held
    obtain ⟨-, rfl⟩ : k = "record-a" ∧
        record = sampleRecord "record-a" "bed" "history-a" "uuid-a" "switch.a" := by
      simpa [sampleStore] using found
    exact sampleRecord_strict _ _ _ _ _

/-- The stored form of the sample store before the schema-3 upgrade. -/
def schema2Payload : Payload :=
  .dict (withField (withField (storeEntries epochRuntime sampleStore.toStoreFields)
    "version" (.int priorStoreSchemaVersion)) "safety_records"
    (.dict (sampleStore.safetyRecords.sortedEntries.map fun entry =>
      (entry.1, .dict ((safetyRecordToDict epochRuntime entry.2).filter fun field =>
        field.1 ≠ "removed_actuator_ack")))))

theorem storedForm_roundTrips_rechecked :
    recheckedStore.RoundTrips epochRuntime ∧
    (∃ raw data, storeDataFromDict epochRuntime raw = .ok data ∧
      data.ReadsBack epochRuntime) ∧
    ∃ data, migrateSchema2ToSchema3 epochRuntime schema2Payload = .ok data ∧
      storeDataFromDict epochRuntime (withNullAcks schema2Payload) = .ok data := by
  have laws := storedForm_roundTrips epochRuntime
  have roundTrips : recheckedStore.RoundTrips epochRuntime := by
    refine (laws.1 recheckedStore (StoreFields.validated_of_values (by decide +kernel))
      recheckedStore_strict).mpr ?_
    exact (StoreFields.holds_referenceGuards_iff.mp (by decide +kernel)).2
  have ⟨written, again, _, reads, _⟩ := roundTrips
  have migrates : (migrateSchema2ToSchema3 epochRuntime schema2Payload).toOption.isSome = true := by
    decide +kernel
  cases migrated : migrateSchema2ToSchema3 epochRuntime schema2Payload with
  | error err => simp [migrated, Except.toOption] at migrates
  | ok data =>
    exact ⟨roundTrips, ⟨written, again, reads, laws.2.1 written again reads⟩, data, rfl,
      (laws.2.2 schema2Payload data migrated).1⟩

/-- Two histories, each kept under the ID of the other. -/
def swappedStore : StoreFields where
  generationId := "generation"
  storeRevision := 1
  run := ⟨some "run", none⟩
  zoneHistories :=
    ⟨[("history-a", { sampleHistory "history-b" "lawn" with activeSubentryId := none }),
      ("history-b", { sampleHistory "history-a" "bed" with activeSubentryId := none })],
      by decide +kernel⟩
  safetyRecords := Dict.empty

/-- The keys and the IDs of the swapped histories are the same set, so the store is
valid, but it does not come back as it was. -/
theorem not_storedForm_roundTrips_swapped :
    swappedStore.Validated ∧ swappedStore.Strict epochRuntime ∧
      ¬ swappedStore.RoundTrips epochRuntime := by
  refine ⟨StoreFields.validated_of_values (by decide +kernel), ?_, fun roundTrips => ?_⟩
  · refine ⟨by decide +kernel, by decide +kernel, fun k history held => ?_, fun k record held => ?_⟩
    · have member : (k, history) ∈ swappedStore.zoneHistories.entries :=
        Dict.get?_eq_some_iff.mp held
      simp only [swappedStore, List.mem_cons, Prod.mk.injEq, List.not_mem_nil,
        or_false] at member
      rcases member with ⟨-, rfl⟩ | ⟨-, rfl⟩ <;>
      · refine ⟨by simp [sampleHistory], by simp [sampleHistory], ?_, by simp [sampleHistory],
          by simp [sampleHistory]⟩
        rintro daily ⟨rfl⟩
        exact ⟨rfl, by simp⟩
    · rw [swappedStore, Dict.get?_empty] at held
      cases held
  · have kept := roundTrips.keyedById.histories "history-a" _ rfl
    revert kept
    decide +kernel

end MoistureLoop
