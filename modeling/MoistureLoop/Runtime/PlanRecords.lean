import MoistureLoop.Runtime.PlanSteps

/-! # What a plan does to the records of the Store

Seen from one record, the first loop retains it or leaves it to its zone, and every turn of
the second loop marks it, lets a zone take it, or leaves it.  `planReconciledStore_rule` is
the induction over the turns. -/

namespace MoistureLoop

open Checked (Holds)

/-- The IDs a plan mints are new. -/
structure FreshIds (env : PlanEnv) (snapshot : ImmutableEntrySnapshot) (data : StoreFields) :
    Prop where
  records : ∀ zone ∈ snapshot.zones,
    data.safetyRecords.get? (env.mint zone.subentryId).safetyRecordId = none
  histories : ∀ zone ∈ snapshot.zones,
    data.zoneHistories.get? (env.mint zone.subentryId).zoneHistoryId = none
  recordsDistinct : ∀ zone ∈ snapshot.zones, ∀ other ∈ snapshot.zones,
    (env.mint zone.subentryId).safetyRecordId = (env.mint other.subentryId).safetyRecordId →
    zone.subentryId = other.subentryId
  historiesDistinct : ∀ zone ∈ snapshot.zones, ∀ other ∈ snapshot.zones,
    (env.mint zone.subentryId).zoneHistoryId = (env.mint other.subentryId).zoneHistoryId →
    zone.subentryId = other.subentryId

/-- The states between the zones of a plan: `state` is reached once `earlier` is planned. -/
def PlanReaches (env : PlanEnv) (snapshot : ImmutableEntrySnapshot) (data : StoreFields)
    (earlier : List ImmutableZoneSnapshot) (state : PlanState) : Prop :=
  ∃ retained,
    data.safetyRecords.entries.foldlM (retainOwner env snapshot) (.unplanned snapshot data) =
      .ok retained ∧
    earlier.foldlM (planZone env snapshot data.originalActive) retained = .ok state

/-! ## Writes of the plan -/

theorem PlanState.Keyed.setRecord {state : PlanState} (keyed : state.Keyed) {k : String}
    {record : SafetyRecord} (own : record.safetyRecordId = k) :
    ({ state with records := state.records.set k record }).Keyed where
  records := by
    intro key value found
    simp only [Dict.get?_set] at found
    split at found
    · rename_i same
      obtain rfl := Option.some.inj found
      exact own.trans same.symm
    · exact keyed.records key value found
  histories := keyed.histories

theorem PlanState.Keyed.setHistory {state : PlanState} (keyed : state.Keyed) {k : String}
    {history : ZoneHistory} (own : history.zoneHistoryId = k) :
    ({ state with histories := state.histories.set k history }).Keyed where
  records := keyed.records
  histories := by
    intro key value found
    simp only [Dict.get?_set] at found
    split at found
    · rename_i same
      obtain rfl := Option.some.inj found
      exact own.trans same.symm
    · exact keyed.histories key value found

theorem PlanState.Keyed.eraseHistory {state : PlanState} (keyed : state.Keyed) {k : String} :
    ({ state with histories := state.histories.erase k }).Keyed where
  records := keyed.records
  histories := by
    intro key value found
    by_cases same : key = k
    · simp [same] at found
    · exact keyed.histories key value (by rwa [Dict.get?_erase_of_ne _ same] at found)

/-! ## Retaining an owner -/

/-- What the first loop makes of a record. -/
inductive RecordRetained (env : PlanEnv) (snapshot : ImmutableEntrySnapshot) (k : String)
    (old : SafetyRecord) : SafetyRecord → Prop where
  /-- It keeps its zone and its actuator. -/
  | current {subentryId : String} {zone : ImmutableZoneSnapshot} :
      old.activeSubentryId = some subentryId → snapshot.bySubentryId subentryId = some zone →
      sameActuator old zone = true → RecordRetained env snapshot k old old
  /-- It is reconciled as a retained record. -/
  | reconciled {base after : SafetyRecord} {history : ZoneHistory} :
      (base = old ∧ old.activeSubentryId = none ∨
        ∃ subentryId, old.activeSubentryId = some subentryId ∧
          base = old.displaced subentryId ∧ Holds base.guards) →
      (∀ subentryId zone, old.activeSubentryId = some subentryId →
        snapshot.bySubentryId subentryId = some zone → sameActuator old zone = false) →
      reconcileRetainedRecord env.registry base history (env.recordAssessment k) = .ok after →
      RecordRetained env snapshot k old after

/-- A turn of the first loop writes its own record only. -/
theorem OwnerRetained.record {env : PlanEnv} {snapshot : ImmutableEntrySnapshot}
    {state next : PlanState} {k : String} {old : SafetyRecord}
    (present : state.records.get? k = some old)
    (retained : OwnerRetained env snapshot state k old next) :
    (∃ after, next.records.get? k = some after ∧ RecordRetained env snapshot k old after) ∧
      ∀ other, other ≠ k → next.records.get? other = state.records.get? other := by
  cases retained with
  | current owned configured same =>
    exact ⟨⟨old, present, .current owned configured same⟩, fun _ _ => rfl⟩
  | retained unowned _ checked =>
    refine ⟨⟨_, Dict.get?_set_self .., .reconciled (.inl ⟨rfl, unowned⟩) ?_ checked⟩,
      fun other differs => Dict.get?_set_of_ne _ _ differs⟩
    intro subentryId zone owned
    rw [unowned] at owned
    cases owned
  | replaced owned configured other valid _ checked =>
    refine ⟨⟨_, Dict.get?_set_self .., .reconciled (.inr ⟨_, owned, rfl, valid⟩) ?_ checked⟩,
      fun other differs => Dict.get?_set_of_ne _ _ differs⟩
    intro subentryId zone owned' configured'
    obtain rfl := Option.some.inj (owned.symm.trans owned')
    obtain rfl := Option.some.inj (configured.symm.trans configured')
    exact other
  | removed owned absent valid _ _ _ checked =>
    refine ⟨⟨_, Dict.get?_set_self .., .reconciled (.inr ⟨_, owned, rfl, valid⟩) ?_ checked⟩,
      fun other differs => Dict.get?_set_of_ne _ _ differs⟩
    intro subentryId zone owned' configured
    obtain rfl := Option.some.inj (owned.symm.trans owned')
    rw [absent] at configured
    cases configured

/-- The retained record keeps its IDs. -/
theorem RecordRetained.frame {env : PlanEnv} {snapshot : ImmutableEntrySnapshot} {k : String}
    {old after : SafetyRecord} (retained : RecordRetained env snapshot k old after) :
    after.safetyRecordId = old.safetyRecordId ∧ after.zoneHistoryId = old.zoneHistoryId ∧
      after.actuatorIdentity.registryEntryId = old.actuatorIdentity.registryEntryId := by
  cases retained with
  | current => exact ⟨rfl, rfl, rfl⟩
  | @reconciled base _ history origin _ checked =>
    obtain ⟨rfl, -⟩ := reconcileRetainedRecord_eq_ok checked
    obtain ⟨status, blockers, owner, incident, lifecycle, same⟩ := @SafetyRecord.retained_frame
      base env.registry history.zoneRuntime.session (env.recordAssessment k)
    refine ⟨?_, ?_, SafetyRecord.retained_registryEntryId.trans ?_⟩
    · rw [same]
      obtain ⟨rfl, -⟩ | ⟨subentryId, -, rfl, -⟩ := origin <;> rfl
    · rw [same]
      obtain ⟨rfl, -⟩ | ⟨subentryId, -, rfl, -⟩ := origin <;> rfl
    · obtain ⟨rfl, -⟩ | ⟨subentryId, -, rfl, -⟩ := origin <;> rfl

theorem OwnerRetained.histories_keyed {env : PlanEnv} {snapshot : ImmutableEntrySnapshot}
    {state next : PlanState} {k : String} {old : SafetyRecord} (keyed : state.Keyed)
    (retained : OwnerRetained env snapshot state k old next) :
    ∀ key history, next.histories.get? key = some history → history.zoneHistoryId = key := by
  cases retained with
  | current | retained | replaced => exact keyed.histories
  | removed =>
    exact (keyed.setHistory (rfl : (ZoneHistory.vacated _ _).zoneHistoryId = _)).histories

/-- What the first loop makes of the records. -/
structure OwnersRetained (env : PlanEnv) (snapshot : ImmutableEntrySnapshot) (data : StoreFields)
    (retained : PlanState) : Prop where
  keyed : retained.Keyed
  absent : ∀ k, data.safetyRecords.get? k = none → retained.records.get? k = none
  records : ∀ k old, data.safetyRecords.get? k = some old →
    ∃ after, retained.records.get? k = some after ∧ RecordRetained env snapshot k old after

theorem OwnersRetained.stored {env : PlanEnv} {snapshot : ImmutableEntrySnapshot}
    {data : StoreFields} {retained : PlanState} {k : String} {record : SafetyRecord}
    (owners : OwnersRetained env snapshot data retained)
    (found : retained.records.get? k = some record) :
    ∃ original, data.safetyRecords.get? k = some original ∧
      RecordRetained env snapshot k original record := by
  cases held : data.safetyRecords.get? k with
  | none =>
    rw [owners.absent k held] at found
    cases found
  | some original =>
    obtain ⟨after, found', made⟩ := owners.records k original held
    obtain rfl := Option.some.inj (found'.symm.trans found)
    exact ⟨original, rfl, made⟩

theorem ownersRetained {env : PlanEnv} {snapshot : ImmutableEntrySnapshot} {data : StoreData}
    {retained : PlanState}
    (retaining : data.safetyRecords.entries.foldlM (retainOwner env snapshot)
      (.unplanned snapshot data.toStoreFields) = .ok retained) :
    OwnersRetained env snapshot data.toStoreFields retained := by
  -- The records that remain are the Store's; the others have been retained.
  let remaining : List (String × SafetyRecord) → PlanState → Prop := fun rest state =>
    (rest.map Prod.fst).Nodup ∧ state.Keyed ∧
      (∀ k, data.safetyRecords.get? k = none → state.records.get? k = none) ∧
      (∀ k old, (k, old) ∈ rest → data.safetyRecords.get? k = some old ∧
        state.records.get? k = some old) ∧
      ∀ k old, data.safetyRecords.get? k = some old → (k, old) ∉ rest →
        ∃ after, state.records.get? k = some after ∧ RecordRetained env snapshot k old after
  have finished : remaining [] retained := by
    refine Checked.foldlM_remaining ?_ ?_ retaining
    · rintro ⟨k, old⟩ rest state next ⟨distinct, keyed, absent, unprocessed, processed⟩ stepped
      obtain ⟨fresh, distinct⟩ := List.nodup_cons.mp distinct
      obtain ⟨original, present⟩ := unprocessed k old (by simp)
      have outcome := retainOwner_cases stepped
      obtain ⟨⟨after, found, made⟩, others⟩ := outcome.record present
      refine ⟨distinct, ⟨?_, outcome.histories_keyed keyed⟩, ?_, ?_, ?_⟩
      · intro key value held
        by_cases same : key = k
        · subst same
          obtain rfl := Option.some.inj (found.symm.trans held)
          exact made.frame.1.trans (data.consistent.recordKey key old original)
        · exact keyed.records key value (others key same ▸ held)
      · intro key none'
        have differs : key ≠ k := by
          rintro rfl
          rw [original] at none'
          cases none'
        rw [others key differs]
        exact absent key none'
      · intro key value member
        obtain ⟨original', present'⟩ := unprocessed key value (by simp [member])
        have differs : key ≠ k := by
          rintro rfl
          exact fresh (List.mem_map.mpr ⟨_, member, rfl⟩)
        exact ⟨original', (others key differs).trans present'⟩
      · intro key value held outside
        by_cases same : key = k
        · subst same
          obtain rfl := Option.some.inj (original.symm.trans held)
          exact ⟨after, found, made⟩
        · obtain ⟨after', found', made'⟩ := processed key value held (by simp [same, outside])
          exact ⟨after', (others key same).trans found', made'⟩
    · refine ⟨data.safetyRecords.nodup, ⟨data.consistent.recordKey, data.consistent.historyKey⟩,
        fun _ none' => none', ?_, ?_⟩
      · intro k old member
        exact ⟨Dict.get?_eq_some_iff.mpr member, Dict.get?_eq_some_iff.mpr member⟩
      · intro k old held outside
        exact absurd (Dict.get?_eq_some_iff.mp held) outside
  obtain ⟨-, keyed, absent, -, processed⟩ := finished
  exact ⟨keyed, absent, fun k old held => processed k old held (by simp)⟩

structure ZoneHistory.SameEvidence (history after : ZoneHistory) : Prop where
  zoneHistoryId : after.zoneHistoryId = history.zoneHistoryId
  lastSessionEndUtc : after.lastSessionEndUtc = history.lastSessionEndUtc
  lastAutoSessionStartUtc : after.lastAutoSessionStartUtc = history.lastAutoSessionStartUtc
  zoneRuntime : after.zoneRuntime = history.zoneRuntime
  daily : after.daily = history.daily
  valid : Holds after.guards

/-- What the first loop makes of the histories. -/
structure HistoriesRetained (snapshot : ImmutableEntrySnapshot) (data : StoreFields)
    (retained : PlanState) : Prop where
  conflicts : retained.conflicts = duplicateIdentityConflicts snapshot.zones
  absent : ∀ k, data.zoneHistories.get? k = none → retained.histories.get? k = none
  histories : ∀ k history, data.zoneHistories.get? k = some history →
    ∃ after, retained.histories.get? k = some after ∧ history.SameEvidence after

/-- The Store's history behind one that an owner was retained with. -/
theorem HistoriesRetained.stored {snapshot : ImmutableEntrySnapshot} {data : StoreFields}
    {retained : PlanState} {k : String} {history : ZoneHistory}
    (histories : HistoriesRetained snapshot data retained)
    (found : retained.histories.get? k = some history) :
    ∃ original, data.zoneHistories.get? k = some original ∧ original.SameEvidence history := by
  cases held : data.zoneHistories.get? k with
  | none =>
    rw [histories.absent _ held] at found
    cases found
  | some original =>
    obtain ⟨after, present, same⟩ := histories.histories _ original held
    obtain rfl := Option.some.inj (present.symm.trans found)
    exact ⟨original, rfl, same⟩

theorem HistoriesRetained.retainOwner {env : PlanEnv} {snapshot : ImmutableEntrySnapshot}
    {data : StoreData} {state next : PlanState} {k : String} {old : SafetyRecord}
    (histories : HistoriesRetained snapshot data.toStoreFields state)
    (retained : OwnerRetained env snapshot state k old next) :
    HistoriesRetained snapshot data.toStoreFields next := by
  cases retained with
  | current | retained | replaced =>
    exact ⟨histories.conflicts, histories.absent, histories.histories⟩
  | @removed subentryId history reread record _ _ _ found vacated _ _ =>
    obtain ⟨original, held, same⟩ := histories.stored found
    have key : history.zoneHistoryId = old.zoneHistoryId :=
      same.zoneHistoryId.trans (data.consistent.historyKey _ original held)
    refine ⟨histories.conflicts, fun key' none' => ?_, fun key' other held' => ?_⟩
    · have differs : key' ≠ history.zoneHistoryId := by
        rintro rfl
        rw [key, held] at none'
        cases none'
      exact (Dict.get?_set_of_ne _ _ differs).trans (histories.absent key' none')
    · by_cases here : key' = history.zoneHistoryId
      · subst here
        rw [key, held] at held'
        obtain rfl := Option.some.inj held'
        exact ⟨_, Dict.get?_set_self .., same.zoneHistoryId, same.lastSessionEndUtc,
          same.lastAutoSessionStartUtc, same.zoneRuntime, same.daily, vacated⟩
      · obtain ⟨after, present, same'⟩ := histories.histories key' other held'
        exact ⟨after, (Dict.get?_set_of_ne _ _ here).trans present, same'⟩

theorem historiesRetained_unplanned {snapshot : ImmutableEntrySnapshot} {data : StoreData} :
    HistoriesRetained snapshot data.toStoreFields (.unplanned snapshot data.toStoreFields) :=
  ⟨rfl, fun _ none' => none', fun k history held =>
    ⟨history, held, rfl, rfl, rfl, rfl, rfl, data.consistent.histories k history held⟩⟩

theorem historiesRetained {env : PlanEnv} {snapshot : ImmutableEntrySnapshot} {data : StoreData}
    {retained : PlanState}
    (retaining : data.safetyRecords.entries.foldlM (retainOwner env snapshot)
      (.unplanned snapshot data.toStoreFields) = .ok retained) :
    HistoriesRetained snapshot data.toStoreFields retained := by
  refine Checked.foldlM_invariant ?_ historiesRetained_unplanned retaining
  rintro state ⟨k, old⟩ next - invariant stepped
  exact invariant.retainOwner (retainOwner_cases stepped)

/-! ## Planning a zone -/

theorem ImmutableEntrySnapshot.bySubentryId_of_mem {snapshot : ImmutableEntrySnapshot}
    {zone : ImmutableZoneSnapshot} (member : zone ∈ snapshot.zones) :
    snapshot.bySubentryId zone.subentryId = some zone := by
  have distinct : (snapshot.zones.map ImmutableZoneSnapshot.subentryId).Nodup :=
    snapshot.sorted.imp fun less => ne_of_lt less
  cases found : snapshot.bySubentryId zone.subentryId with
  | none =>
    have absent := List.find?_eq_none.mp found zone member
    simp at absent
  | some other =>
    have named := List.find?_some found
    have same := List.inj_on_of_nodup_map distinct (List.mem_of_find?_eq_some found) member
      (by simpa using named)
    rw [same]

theorem ImmutableEntrySnapshot.zone_unique {snapshot : ImmutableEntrySnapshot}
    {zone other : ImmutableZoneSnapshot} (member : zone ∈ snapshot.zones)
    (member' : other ∈ snapshot.zones) (same : other.subentryId = zone.subentryId) :
    other = zone := by
  have here := ImmutableEntrySnapshot.bySubentryId_of_mem member'
  rw [same, ImmutableEntrySnapshot.bySubentryId_of_mem member] at here
  exact (Option.some.inj here).symm

theorem StoreFields.originalActive_eq_some {data : StoreFields} {subentryId : String}
    {record : SafetyRecord} (prior : data.originalActive subentryId = some record) :
    record.activeSubentryId = some subentryId ∧
      ∃ k, data.safetyRecords.get? k = some record := by
  have owned := List.find?_some prior
  have member := List.mem_reverse.mp (List.mem_of_find?_eq_some prior)
  exact ⟨by simpa using owned, Dict.mem_values_iff_get?.mp member⟩

/-- The current record of a subentry is the one that a plan starts from. -/
theorem StoreData.originalActive_of_active {data : StoreData} {k : String}
    {record : SafetyRecord} (found : data.safetyRecords.get? k = some record)
    {subentryId : String} (active : record.activeSubentryId = some subentryId) :
    data.originalActive subentryId = some record := by
  have member : record ∈ data.safetyRecords.values.reverse :=
    List.mem_reverse.mpr (Dict.mem_values_iff_get?.mpr ⟨k, found⟩)
  cases original : data.originalActive subentryId with
  | none =>
    have absent := List.find?_eq_none.mp original record member
    simp [active] at absent
  | some other =>
    obtain ⟨active', k', found'⟩ := StoreFields.originalActive_eq_some original
    obtain rfl := data.consistent.recordSubentry k' k other record subentryId found' found active'
      active
    rw [← found, ← found']

theorem SelectionReason.found {state : PlanState} {prior : Option SafetyRecord}
    {zone : ImmutableZoneSnapshot} {selected : SafetyRecord} (keyed : state.Keyed)
    (reason : SelectionReason state prior zone selected) :
    state.records.get? selected.safetyRecordId = some selected := by
  have present : ∃ k, state.records.get? k = some selected := by
    cases reason with
    | current _ _ found => exact ⟨_, found⟩
    | exact _ only =>
      have member : selected ∈ state.exactRecords zone := by simp [only]
      exact Dict.mem_values_iff_get?.mp (List.mem_of_mem_filter member)
    | mapped _ _ only =>
      have member : selected ∈ state.mappedCandidates zone := by simp [only]
      exact Dict.mem_values_iff_get?.mp (List.mem_of_mem_filter member)
  obtain ⟨k, found⟩ := present
  rwa [keyed.records k selected found]

/-- Joining leaves the records, the IDs and the operational part of the history that continues. -/
structure JoinedOutcome (base joined : PlanState) (selected rejoined : SafetyRecord)
    (continuingId : String) : Prop where
  records : joined.records = base.records
  conflicts : joined.conflicts = base.conflicts
  keyed : base.Keyed → joined.Keyed
  id : rejoined.safetyRecordId = selected.safetyRecordId
  identity : rejoined.actuatorIdentity = selected.actuatorIdentity
  refers : rejoined.zoneHistoryId = continuingId
  rejoined : rejoined = selected ∨
    Holds (selected.rejoined continuingId).guards ∧ rejoined = selected.rejoined continuingId
  session : ∀ history, joined.histories.get? continuingId = some history →
    ∃ before, base.histories.get? continuingId = some before ∧
      before.zoneRuntime = history.zoneRuntime

theorem JoinedHistories.outcome {base joined : PlanState} {prior : Option SafetyRecord}
    {selected rejoined : SafetyRecord} (keyed : base.Keyed)
    (joining : JoinedHistories base prior selected joined rejoined) :
    JoinedOutcome base joined selected rejoined (continuingHistoryId prior selected) := by
  cases joining with
  | same same =>
    exact ⟨rfl, rfl, id, rfl, rfl, same, .inl rfl, fun history held => ⟨history, held, rfl⟩⟩
  | @merged continuing retained merged kept other held held' closed merging kept' valid =>
    have own := keyed.histories _ continuing held
    have own' := keyed.histories _ retained held'
    have distinct : continuing.zoneHistoryId ≠ retained.zoneHistoryId := by
      rw [own, own']
      exact fun same => other same.symm
    obtain ⟨daily, -, rfl⟩ := mergeZoneHistoryContinuity_eq_ok distinct merging
    refine ⟨rfl, rfl, fun _ => ?_, rfl, rfl, rfl, .inr ⟨valid, rfl⟩, ?_⟩
    · have written := keyed.setHistory (show (ZoneHistory.zoneHistoryId
        { continuing with
          lastSessionEndUtc := latest continuing.lastSessionEndUtc retained.lastSessionEndUtc
          lastAutoSessionStartUtc :=
            latest continuing.lastAutoSessionStartUtc retained.lastAutoSessionStartUtc
          daily }) = continuingHistoryId prior selected from own)
      rw [kept']
      split
      · exact written
      · exact written.eraseHistory
    · intro history found
      refine ⟨continuing, held, ?_⟩
      rw [kept'] at found
      split at found
      · simp only [Dict.get?_set_self, Option.some.injEq] at found
        rw [← found]
      · rw [Dict.get?_erase_of_ne _ (Ne.symm other), Dict.get?_set_self] at found
        rw [← Option.some.inj found]

theorem JoinedOutcome.continuing {base joined : PlanState} {prior : Option SafetyRecord}
    {selected rejoined : SafetyRecord}
    (outcome : JoinedOutcome base joined selected rejoined (continuingHistoryId prior selected)) :
    continuingHistoryId prior rejoined = continuingHistoryId prior selected := by
  cases prior with
  | none => exact outcome.refers
  | some prior => rfl

/-- A mapped record is not one whose session goes on. -/
theorem continuingSameActuator_of_mapped {prior : Option SafetyRecord}
    {exact : List SafetyRecord} {zone : ImmutableZoneSnapshot}
    (unowned : prior.all (fun record => !sameActuator record zone) = true) (none' : exact = [])
    (selected : SafetyRecord) : continuingSameActuator prior exact selected zone = false := by
  subst none'
  cases prior with
  | none => rfl
  | some prior =>
    simp only [Option.all_some, Bool.not_eq_true'] at unowned
    simp [continuingSameActuator, unowned]

/-- A zone that adopts its record keeps the ID of the record and gives it its identity. -/
theorem ZoneAdopted.record_frame {env : PlanEnv} {snapshot : ImmutableEntrySnapshot}
    {joined next : PlanState} {prior : Option SafetyRecord} {exact : List SafetyRecord}
    {selected record : SafetyRecord} {zone : ImmutableZoneSnapshot} {createdNew : Bool}
    {history planned : ZoneHistory}
    (adopted : ZoneAdopted env snapshot joined prior exact selected zone createdNew history planned
      record next) :
    record.safetyRecordId = selected.safetyRecordId ∧
      record.actuatorIdentity = durableActuatorIdentity zone ∧
      record.activeSubentryId = some zone.subentryId ∧
      record.zoneHistoryId = continuingHistoryId prior selected := by
  obtain ⟨blockers, owner, same⟩ := @SafetyRecord.withEvidence_frame
    (selected.adopted zone (continuingHistoryId prior selected)
      (zone.appliedShadow snapshot.entrySnapshotFingerprint snapshot.observedGeneration)
      (durableActuatorIdentity zone)) planned.zoneRuntime.session
    (env.zoneAssessment zone.subentryId) false
  rw [adopted.recordEq, same]
  exact ⟨rfl, rfl, rfl, rfl⟩

/-- The history of a zone without a session of its own actuator is closed before it is
adopted. -/
theorem ZoneAdopted.closed {env : PlanEnv} {snapshot : ImmutableEntrySnapshot}
    {joined next : PlanState} {prior : Option SafetyRecord} {exact : List SafetyRecord}
    {selected record : SafetyRecord} {zone : ImmutableZoneSnapshot} {createdNew : Bool}
    {history planned : ZoneHistory}
    (adopted : ZoneAdopted env snapshot joined prior exact selected zone createdNew history planned
      record next) (other : continuingSameActuator prior exact selected zone = false) :
    history.zoneRuntime.session = none := by
  cases held : history.zoneRuntime.session with
  | none => rfl
  | some session =>
    have same := adopted.owned (by simp [held])
    rw [other] at same
    cases same

theorem newSafetyRecord_frame {env : PlanEnv} {snapshot : ImmutableEntrySnapshot}
    {zone : ImmutableZoneSnapshot} {record : SafetyRecord}
    (made : newSafetyRecord env snapshot zone = .ok record) :
    record.safetyRecordId = (env.mint zone.subentryId).safetyRecordId ∧
      record.zoneHistoryId = (env.mint zone.subentryId).zoneHistoryId ∧
      record.actuatorIdentity = durableActuatorIdentity zone := by
  simp only [newSafetyRecord, Except.bind_eq_ok_iff, checkValue_eq_ok_iff,
    SafetyRecord.evolve_eq_ok_iff] at made
  obtain ⟨_, ⟨-, rfl⟩, _, ⟨-, rfl⟩, -, rfl⟩ := made
  exact ⟨rfl, rfl, rfl⟩

theorem newZoneHistory_frame {env : PlanEnv} {record : SafetyRecord}
    {zone : ImmutableZoneSnapshot} {history : ZoneHistory}
    (opened : newZoneHistory env record zone = .ok history) :
    history.zoneHistoryId = record.zoneHistoryId ∧ history.zoneRuntime.session = none := by
  simp only [newZoneHistory, Except.bind_eq_ok_iff, checkValue_eq_ok_iff] at opened
  obtain ⟨_, ⟨-, rfl⟩, -, rfl⟩ := opened
  exact ⟨rfl, rfl⟩

/-- A zone takes a record: its history is joined and the zone owns both. -/
structure ZoneTakes (env : PlanEnv) (snapshot : ImmutableEntrySnapshot) (base : PlanState)
    (prior : Option SafetyRecord) (exact : List SafetyRecord) (zone : ImmutableZoneSnapshot)
    (createdNew : Bool) (selected record : SafetyRecord) (next : PlanState) : Prop where
  takes : ∃ joined rejoined history planned, JoinedHistories base prior selected joined rejoined ∧
    ZoneAdopted env snapshot joined prior exact rejoined zone createdNew history planned record next

/-- Going on with a record writes no other record. -/
theorem ZoneContinued.records {env : PlanEnv} {snapshot : ImmutableEntrySnapshot}
    {base next : PlanState} {prior : Option SafetyRecord} {exact : List SafetyRecord}
    {selected : SafetyRecord} {zone : ImmutableZoneSnapshot} {createdNew : Bool}
    (keyed : base.Keyed)
    (continued : ZoneContinued env snapshot base prior exact selected zone createdNew next) :
    next.Keyed ∧ (next.records = base.records ∨
      ∃ record, next.records = base.records.set selected.safetyRecordId record ∧
        ZoneTakes env snapshot base prior exact zone createdNew selected record next) := by
  cases continued with
  | unjoined detail => exact ⟨⟨keyed.records, keyed.histories⟩, .inl rfl⟩
  | refused detail joining _ _ =>
    have outcome := joining.outcome keyed
    have keyed' := outcome.keyed keyed
    exact ⟨⟨keyed'.records, keyed'.histories⟩, .inl outcome.records⟩
  | @adopted joined _ rejoined record history planned joining adopted =>
    have outcome := joining.outcome keyed
    have keyed' := outcome.keyed keyed
    obtain ⟨id, -⟩ := adopted.record_frame
    refine ⟨?_, .inr ⟨record, ?_, ⟨joined, rejoined, history, planned, joining, adopted⟩⟩⟩
    · have historyId : planned.zoneHistoryId = continuingHistoryId prior rejoined := by
        rw [adopted.plannedEq]
        exact keyed'.histories _ history adopted.held
      rw [adopted.nextEq]
      exact (keyed'.setHistory historyId).setRecord rfl
    · rw [adopted.nextEq, ← outcome.id, ← id, ← outcome.records]

/-- A turn of the second loop marks a record, lets the zone take it, or leaves it. -/
inductive RecordPlanned (env : PlanEnv) (snapshot : ImmutableEntrySnapshot) (state : PlanState)
    (prior : Option SafetyRecord) (zone : ImmutableZoneSnapshot) (next : PlanState)
    (record : SafetyRecord) : SafetyRecord → Prop where
  | kept {after : SafetyRecord} : record.KeptOrMarked after →
      RecordPlanned env snapshot state prior zone next record after
  | taken {after : SafetyRecord} : zone.identityConflictDetail = none →
      selectRecord env state prior zone = .ok (.existing record) →
      SelectionReason state prior zone record →
      ZoneTakes env snapshot state prior (state.exactRecords zone) zone false record after next →
      RecordPlanned env snapshot state prior zone next record after

theorem planZone_record {env : PlanEnv} {snapshot : ImmutableEntrySnapshot}
    {originalActive : String → Option SafetyRecord} {state next : PlanState}
    {zone : ImmutableZoneSnapshot} (keyed : state.Keyed)
    (planned : planZone env snapshot originalActive state zone = .ok next) :
    next.Keyed ∧ ∀ k record, state.records.get? k = some record →
      k ≠ (env.mint zone.subentryId).safetyRecordId →
      ∃ after, next.records.get? k = some after ∧
        RecordPlanned env snapshot state (originalActive zone.subentryId) zone next record after := by
  obtain marked | ⟨base, selected, createdNew, unreported, selection, continuing⟩ :=
    planZone_cases keyed planned
  · refine ⟨⟨?_, marked.histories ▸ keyed.histories⟩, fun k record present _ => ?_⟩
    · intro k after found
      cases held : state.records.get? k with
      | none =>
        rw [marked.absent k held] at found
        cases found
      | some record =>
        obtain ⟨after', found', kept⟩ := marked.records k record held
        obtain rfl := Option.some.inj (found'.symm.trans found)
        obtain same | ⟨incident, same, -⟩ := kept <;>
          exact (congrArg SafetyRecord.safetyRecordId same).trans (keyed.records k record held)
    · obtain ⟨after, found, kept⟩ := marked.records k record present
      exact ⟨after, found, .kept kept⟩
  · have continued := continueZone_cases continuing
    cases selection with
    | existing selecting reason =>
      obtain ⟨keyed', outcome⟩ := continued.records keyed
      refine ⟨keyed', fun k record present _ => ?_⟩
      obtain same | ⟨after, written, takes⟩ := outcome
      · exact ⟨record, by rw [same, present], .kept (.inl rfl)⟩
      · by_cases here : k = selected.safetyRecordId
        · obtain rfl := Option.some.inj ((reason.found keyed).symm.trans (here ▸ present))
          exact ⟨after, by rw [written, here, Dict.get?_set_self],
            .taken unreported selecting reason takes⟩
        · exact ⟨record, by rw [written, Dict.get?_set_of_ne _ _ here, present], .kept (.inl rfl)⟩
    | fresh unowned exact unregistered made opened =>
      obtain ⟨id, -⟩ := newSafetyRecord_frame made
      obtain ⟨own, -⟩ := newZoneHistory_frame opened
      obtain ⟨keyed', outcome⟩ := continued.records ((keyed.setHistory own).setRecord rfl)
      refine ⟨keyed', fun k record present other => ?_⟩
      rw [← id] at other
      obtain same | ⟨after, written, -⟩ := outcome
      · exact ⟨record, by rw [same, Dict.get?_set_of_ne _ _ other, present], .kept (.inl rfl)⟩
      · exact ⟨record, by
          rw [written, Dict.get?_set_of_ne _ _ other, Dict.get?_set_of_ne _ _ other, present],
          .kept (.inl rfl)⟩

/-! ## The faults of the records -/

structure SafetyRecord.SameFault (record after : SafetyRecord) : Prop where
  actuatorFault : after.actuatorFault = record.actuatorFault
  acknowledgementRequired : after.acknowledgementRequired = record.acknowledgementRequired

theorem SafetyRecord.SameFault.trans {record middle after : SafetyRecord}
    (first : record.SameFault middle) (second : middle.SameFault after) :
    record.SameFault after :=
  ⟨second.actuatorFault.trans first.actuatorFault,
    second.acknowledgementRequired.trans first.acknowledgementRequired⟩

theorem reconcileRetainedRecord_sameFault {registry : EntityRegistry} {record next : SafetyRecord}
    {history : ZoneHistory} {assessment : Option ActuatorAssessment}
    (reconciled : reconcileRetainedRecord registry record history assessment = .ok next) :
    record.SameFault next := by
  obtain ⟨rfl, -⟩ := reconcileRetainedRecord_eq_ok reconciled
  obtain ⟨status, blockers, owner, incident, lifecycle, same⟩ := @SafetyRecord.retained_frame
    record registry history.zoneRuntime.session assessment
  rw [same]
  exact ⟨rfl, rfl⟩

theorem RecordRetained.sameFault {env : PlanEnv} {snapshot : ImmutableEntrySnapshot} {k : String}
    {old after : SafetyRecord} (retained : RecordRetained env snapshot k old after) :
    old.SameFault after := by
  cases retained with
  | current => exact ⟨rfl, rfl⟩
  | reconciled origin _ checked =>
    refine .trans ?_ (reconcileRetainedRecord_sameFault checked)
    obtain ⟨rfl, -⟩ | ⟨subentryId, -, rfl, -⟩ := origin <;> exact ⟨rfl, rfl⟩

theorem ZoneAdopted.sameFault {env : PlanEnv} {snapshot : ImmutableEntrySnapshot}
    {joined next : PlanState} {prior : Option SafetyRecord} {exact : List SafetyRecord}
    {selected record : SafetyRecord} {zone : ImmutableZoneSnapshot} {createdNew : Bool}
    {history planned : ZoneHistory}
    (adopted : ZoneAdopted env snapshot joined prior exact selected zone createdNew history planned
      record next) : selected.SameFault record := by
  obtain ⟨blockers, owner, same⟩ := @SafetyRecord.withEvidence_frame
    (selected.adopted zone (continuingHistoryId prior selected)
      (zone.appliedShadow snapshot.entrySnapshotFingerprint snapshot.observedGeneration)
      (durableActuatorIdentity zone)) planned.zoneRuntime.session
    (env.zoneAssessment zone.subentryId) false
  rw [adopted.recordEq, same]
  exact ⟨rfl, rfl⟩

theorem ZoneTakes.sameFault {env : PlanEnv} {snapshot : ImmutableEntrySnapshot}
    {base next : PlanState} {prior : Option SafetyRecord} {exact : List SafetyRecord}
    {zone : ImmutableZoneSnapshot} {createdNew : Bool} {selected record : SafetyRecord}
    (keyed : base.Keyed)
    (taken : ZoneTakes env snapshot base prior exact zone createdNew selected record next) :
    selected.SameFault record := by
  obtain ⟨joined, rejoined, history, planned, joining, adopted⟩ := taken.takes
  have joinedFault : selected.SameFault rejoined := by
    obtain rfl | ⟨-, rfl⟩ := (joining.outcome keyed).rejoined <;> exact ⟨rfl, rfl⟩
  exact joinedFault.trans adopted.sameFault

theorem RecordPlanned.sameFault {env : PlanEnv} {snapshot : ImmutableEntrySnapshot}
    {state next : PlanState} {prior : Option SafetyRecord} {zone : ImmutableZoneSnapshot}
    {record after : SafetyRecord} (keyed : state.Keyed)
    (made : RecordPlanned env snapshot state prior zone next record after) :
    record.SameFault after := by
  cases made with
  | kept kept => obtain rfl | ⟨incident, rfl, -⟩ := kept <;> exact ⟨rfl, rfl⟩
  | taken _ _ _ taken => exact taken.sameFault keyed

/-! ## The whole plan -/

/-- What holds once the owners are retained, and is kept by every turn of the second loop,
holds of the plan. -/
theorem planReconciledStore_rule {env : PlanEnv} {snapshot : ImmutableEntrySnapshot}
    {data : StoreData} {plan : PlanState} {property : List ImmutableZoneSnapshot → PlanState → Prop}
    (planned : planReconciledStore env snapshot data.toStoreFields = .ok plan)
    (initial : ∀ retained, OwnersRetained env snapshot data.toStoreFields retained →
      HistoriesRetained snapshot data.toStoreFields retained →
      PlanReaches env snapshot data.toStoreFields [] retained → property [] retained)
    (step : ∀ earlier zone later state next, snapshot.zones = earlier ++ zone :: later →
      PlanReaches env snapshot data.toStoreFields earlier state → state.Keyed →
      property earlier state →
      planZone env snapshot data.originalActive state zone = .ok next →
      property (earlier ++ [zone]) next) : property snapshot.zones plan := by
  obtain ⟨retained, retaining, planned⟩ := Except.bind_eq_ok_iff.mp planned
  let remaining : List ImmutableZoneSnapshot → PlanState → Prop := fun rest state =>
    ∃ earlier, snapshot.zones = earlier ++ rest ∧
      PlanReaches env snapshot data.toStoreFields earlier state ∧ state.Keyed ∧
      property earlier state
  have finished : remaining [] plan := by
    refine Checked.foldlM_remaining ?_ ?_ planned
    · rintro zone rest state next ⟨earlier, zones, reached, keyed, holds⟩ stepped
      refine ⟨earlier ++ [zone], by simp [zones], ?_, (planZone_record keyed stepped).1,
        step earlier zone rest state next zones reached keyed holds stepped⟩
      obtain ⟨first, retaining, folded⟩ := reached
      exact ⟨first, retaining, Checked.foldlM_concat_eq_ok folded stepped⟩
    · have owners := ownersRetained retaining
      have reached : PlanReaches env snapshot data.toStoreFields [] retained :=
        ⟨retained, retaining, rfl⟩
      exact ⟨[], rfl, reached, owners.keyed, initial retained owners (historiesRetained retaining) reached⟩
  obtain ⟨earlier, zones, -, -, holds⟩ := finished
  rw [List.append_nil] at zones
  rwa [zones]

/-- A plan keeps the fault of every record, if the IDs it mints are new. -/
theorem planReconciledStore_sameFault {env : PlanEnv} {snapshot : ImmutableEntrySnapshot}
    {data : StoreData} {plan : PlanState} {safetyRecordId : String} {record : SafetyRecord}
    (minted : ∀ zone ∈ snapshot.zones,
      safetyRecordId ≠ (env.mint zone.subentryId).safetyRecordId)
    (planned : planReconciledStore env snapshot data.toStoreFields = .ok plan)
    (found : data.safetyRecords.get? safetyRecordId = some record) :
    ∃ after, plan.records.get? safetyRecordId = some after ∧ record.SameFault after := by
  refine @planReconciledStore_rule _ _ _ _ (fun _ state =>
    ∃ after, state.records.get? safetyRecordId = some after ∧ record.SameFault after) planned ?_ ?_
  · intro retained owners _ _
    obtain ⟨after, present, made⟩ := owners.records safetyRecordId record found
    exact ⟨after, present, made.sameFault⟩
  · rintro earlier zone later state next zones _ keyed ⟨middle, present, same⟩ stepped
    have member : zone ∈ snapshot.zones := by simp [zones]
    obtain ⟨after, present', made⟩ :=
      (planZone_record keyed stepped).2 safetyRecordId middle present (minted zone member)
    exact ⟨after, present', same.trans (made.sameFault keyed)⟩

end MoistureLoop
