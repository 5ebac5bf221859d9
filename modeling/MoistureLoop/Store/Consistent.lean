import MoistureLoop.Store.Records

/-! # What a valid store guarantees

`StoreFields.Consistent` states the guards of `validate_store_data` pointwise, by
lookup instead of by walking the maps.  `holds_guards_iff` is the bridge; every
update is shown consistent with the lookup lemmas of `Dict`. -/

namespace MoistureLoop

open Checked (Holds)

/-- A store whose maps agree with the IDs inside them and with each other. -/
structure StoreFields.Consistent (data : StoreFields) : Prop where
  generation : data.generationId ≠ ""
  revision : 1 ≤ data.storeRevision
  histories : ∀ k history, data.zoneHistories.get? k = some history → Holds history.guards
  records : ∀ k record, data.safetyRecords.get? k = some record → Holds record.guards
  historyKey : ∀ k history, data.zoneHistories.get? k = some history →
    history.zoneHistoryId = k
  recordKey : ∀ k record, data.safetyRecords.get? k = some record → record.safetyRecordId = k
  lineage : ∀ k k' record record', data.safetyRecords.get? k = some record →
    data.safetyRecords.get? k' = some record' →
    record.safetyLineageId = record'.safetyLineageId → k = k'
  recordSubentry : ∀ k k' record record' subentry, data.safetyRecords.get? k = some record →
    data.safetyRecords.get? k' = some record' → record.activeSubentryId = some subentry →
    record'.activeSubentryId = some subentry → k = k'
  historySubentry : ∀ k k' history history' subentry,
    data.zoneHistories.get? k = some history → data.zoneHistories.get? k' = some history' →
    history.activeSubentryId = some subentry → history'.activeSubentryId = some subentry → k = k'
  recordHistory : ∀ k record, data.safetyRecords.get? k = some record →
    ∃ history, data.zoneHistories.get? record.zoneHistoryId = some history ∧
      (record.runtimeLifecycle = .active → history.activeSubentryId = record.activeSubentryId)
  sessionOwner : ∀ k history persisted, data.zoneHistories.get? k = some history →
    history.zoneRuntime.session = some persisted →
    ∃ owner, data.safetyRecords.get? persisted.ownerSafetyRecordId = some owner ∧
      owner.zoneHistoryId = history.zoneHistoryId
  contributionSource : ∀ k history contribution, data.zoneHistories.get? k = some history →
    contribution ∈ history.contributions →
    (data.safetyRecords.get? contribution.sourceSafetyRecordId).isSome
  contributionHistory : ∀ k k' history history' id, data.zoneHistories.get? k = some history →
    data.zoneHistories.get? k' = some history' →
    id ∈ history.contributions.map AccountingContribution.accountingContributionId →
    id ∈ history'.contributions.map AccountingContribution.accountingContributionId → k = k'

/-! ## The guards, one group at a time -/

private theorem holds_recordReferenceGuards_iff {histories : Dict String ZoneHistory}
    {record : SafetyRecord} :
    Holds (recordReferenceGuards histories record) ↔
      ∃ history, histories.get? record.zoneHistoryId = some history ∧
        (record.runtimeLifecycle = .active →
          history.activeSubentryId = record.activeSubentryId) := by
  unfold recordReferenceGuards
  cases found : histories.get? record.zoneHistoryId with
  | none => simp
  | some history =>
    by_cases active : record.runtimeLifecycle = .active <;> simp [active]

private theorem holds_sessionOwnerGuards_iff {records : Dict String SafetyRecord}
    {history : ZoneHistory} :
    Holds (sessionOwnerGuards records history) ↔
      ∀ persisted, history.zoneRuntime.session = some persisted →
        ∃ owner, records.get? persisted.ownerSafetyRecordId = some owner ∧
          owner.zoneHistoryId = history.zoneHistoryId := by
  unfold sessionOwnerGuards
  cases held : history.zoneRuntime.session with
  | none => simp
  | some persisted =>
    cases found : records.get? persisted.ownerSafetyRecordId with
    | none => simp [found]
    | some owner => simp [found]

private theorem holds_contributionGuards_iff {records : Dict String SafetyRecord}
    {earlier contributions : List AccountingContribution} :
    Holds (contributionGuards records earlier contributions) ↔
      (∀ contribution ∈ contributions,
        (records.get? contribution.sourceSafetyRecordId).isSome) ∧
      (contributions.map AccountingContribution.accountingContributionId).Nodup ∧
      ∀ contribution ∈ contributions, ∀ prior ∈ earlier,
        prior.accountingContributionId ≠ contribution.accountingContributionId := by
  induction contributions generalizing earlier with
  | nil => simp [contributionGuards]
  | cons contribution rest ih =>
    have unused : (earlier.filter fun prior =>
        prior.accountingContributionId = contribution.accountingContributionId) = [] ↔
        ∀ prior ∈ earlier,
          prior.accountingContributionId ≠ contribution.accountingContributionId := by
      simp [List.filter_eq_nil_iff]
    simp only [contributionGuards, Checked.holds_append, Checked.holds_cons, Checked.holds_nil,
      ih, List.mem_cons, forall_eq_or_imp, List.map_cons, List.nodup_cons, List.mem_append,
      List.not_mem_nil, or_false, Bool.not_eq_eq_eq_not, Bool.not_false, List.isEmpty_iff,
      and_true, ← unused]
    constructor
    · rintro ⟨⟨known, -, fresh⟩, sources, distinct, apart⟩
      refine ⟨⟨?_, sources⟩, ⟨?_, distinct⟩, fresh, fun other member prior seen =>
        apart other member prior (.inl seen)⟩
      · simpa [Option.isSome_iff_ne_none, Option.isNone_iff_eq_none] using known
      · intro again
        obtain ⟨other, member, same⟩ := List.mem_map.mp again
        exact apart other member contribution (.inr rfl) same.symm
    · rintro ⟨⟨known, sources⟩, ⟨once, distinct⟩, fresh, apart⟩
      refine ⟨⟨?_, by simp [fresh], fresh⟩, sources, distinct, ?_⟩
      · simpa [Option.isSome_iff_ne_none, Option.isNone_iff_eq_none] using known
      · rintro other member prior (seen | rfl)
        · exact apart other member prior seen
        · intro same
          exact once (List.mem_map.mpr ⟨other, member, same.symm⟩)

/-- One day's contributions never repeat an ID. -/
private theorem contributionIds_nodup {history : ZoneHistory} (valid : Holds history.guards) :
    (history.contributions.map AccountingContribution.accountingContributionId).Nodup := by
  cases recorded : history.daily with
  | none => simp [ZoneHistory.contributions, recorded]
  | some daily =>
    have checked : Holds daily.guards := by
      simp only [ZoneHistory.guards, recorded, Checked.holds_append] at valid
      simpa using valid.1.2
    simp only [ZoneDailyRuntime.guards, Checked.holds_append, Checked.holds_cons] at checked
    simpa [ZoneHistory.contributions, recorded] using checked.1.2.2.2.2.1

/-! ## The bridge -/

/-- The construction check of a store accepts exactly the consistent ones. -/
theorem StoreFields.holds_guards_iff {data : StoreFields} :
    Holds data.guards ↔ data.Consistent := by
  have keyed : ∀ {V : Type} (entries : Dict String V) (id : V → String),
      (entries.entries.any fun entry => id entry.2 ≠ entry.1) = false ↔
        ∀ k v, entries.get? k = some v → id v = k := by
    intro V entries id
    simp [Dict.get?_eq_some_iff]
  have recordOwners : (!decide (activeRecordSubentries data.safetyRecords).Nodup) = false ↔
      ∀ k k' record record' subentry, data.safetyRecords.get? k = some record →
        data.safetyRecords.get? k' = some record' → record.activeSubentryId = some subentry →
        record'.activeSubentryId = some subentry → k = k' := by
    rw [Bool.not_eq_false', decide_eq_true_iff]
    exact Dict.nodup_filterMap_values_iff
  have historyOwners : (!decide (activeHistorySubentries data.zoneHistories).Nodup) = false ↔
      ∀ k k' history history' subentry, data.zoneHistories.get? k = some history →
        data.zoneHistories.get? k' = some history' → history.activeSubentryId = some subentry →
        history'.activeSubentryId = some subentry → k = k' := by
    rw [Bool.not_eq_false', decide_eq_true_iff]
    exact Dict.nodup_filterMap_values_iff
  simp only [StoreFields.guards, StoreFields.referenceGuards, StoreFields.crossGuards,
    Checked.holds_append, Checked.holds_flatMap, Checked.holds_cons, Checked.holds_nil, and_true,
    holds_recordReferenceGuards_iff, holds_sessionOwnerGuards_iff, holds_contributionGuards_iff,
    keyed, recordOwners, historyOwners, Bool.not_eq_eq_eq_not,
    Bool.not_false, decide_eq_true_eq, decide_eq_false_iff_not, allContributions,
    List.map_flatMap, Dict.nodup_map_values_iff, Dict.nodup_flatMap_values_iff,
    Dict.mem_values_iff_get?, List.mem_flatMap, List.not_mem_nil, false_implies,
    implies_true, forall_exists_index, and_imp]
  constructor
  · rintro ⟨⟨histories, records⟩, ⟨⟨⟨generation, revision, historyKey, recordKey, lineage,
      recordSubentry, historySubentry⟩, recordHistory⟩, sessionOwner⟩, source, -, shared⟩
    exact {
      generation
      revision := by omega
      histories := fun k history found => histories history k found
      records := fun k record found => records record k found
      historyKey
      recordKey
      lineage
      recordSubentry
      historySubentry
      recordHistory := fun k record found => recordHistory record k found
      sessionOwner := fun k history persisted found => sessionOwner history k found persisted
      contributionSource := fun k history contribution found member =>
        source contribution history k found member
      contributionHistory := shared }
  · intro consistent
    exact ⟨⟨fun history k found => consistent.histories k history found,
      fun record k found => consistent.records k record found⟩,
      ⟨⟨⟨consistent.generation, by have := consistent.revision; omega, consistent.historyKey,
        consistent.recordKey, consistent.lineage, consistent.recordSubentry,
        consistent.historySubentry⟩, fun record k found => consistent.recordHistory k record found⟩,
        fun history k found persisted => consistent.sessionOwner k history persisted found⟩,
      fun contribution history k found member =>
        consistent.contributionSource k history contribution found member,
      fun k history found => contributionIds_nodup (consistent.histories k history found),
      consistent.contributionHistory⟩

theorem StoreData.consistent (data : StoreData) : data.toStoreFields.Consistent :=
  StoreFields.holds_guards_iff.mp data.valid

theorem StoreFields.Consistent.check {data : StoreFields} (consistent : data.Consistent) :
    data.check = .ok ⟨data, StoreFields.holds_guards_iff.mpr consistent⟩ :=
  StoreFields.check_eq_ok_iff.mpr rfl

end MoistureLoop
