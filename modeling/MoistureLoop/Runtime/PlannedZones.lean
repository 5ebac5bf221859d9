import MoistureLoop.Runtime.Hazards

/-! # The zones of a plan without conflicts

In a plan without conflicts every zone takes one record, and keeps it: `ZonesOwned` says which
records the zones planned so far own, and that the others still refer to the histories of the
Store. -/

namespace MoistureLoop

open Checked (Holds)

/-! ## Duplicate identities -/

/-- Without a conflict no two zones select one actuator. -/
theorem identityKeys_nodup_from {zones : List ImmutableZoneSnapshot}
    {seen : Dict IdentityKey String} {conflicts : List String}
    (calm : (zones.foldl (fun (seen : Dict IdentityKey String × List String)
        (zone : ImmutableZoneSnapshot) =>
      (seen.1.set zone.identityKey zone.subentryId,
        match seen.1.get? zone.identityKey with
        | some other =>
          seen.2 ++
            ["actuator identity is selected by both " ++ other ++ " and " ++ zone.subentryId]
        | none => seen.2)) (seen, conflicts)).2 = []) :
    conflicts = [] ∧ (zones.map ImmutableZoneSnapshot.identityKey).Nodup ∧
      ∀ zone ∈ zones, seen.get? zone.identityKey = none := by
  induction zones generalizing seen conflicts with
  | nil => exact ⟨calm, by simp, by simp⟩
  | cons zone rest ih =>
    obtain ⟨before, distinct, unseen⟩ := ih calm
    have first : seen.get? zone.identityKey = none := by
      cases found : seen.get? zone.identityKey with
      | none => rfl
      | some other => simp [found] at before
    have apart : ∀ other ∈ rest, other.identityKey ≠ zone.identityKey ∧
        seen.get? other.identityKey = none := by
      intro other member
      have none' := unseen other member
      rw [Dict.get?_set] at none'
      split at none'
      · cases none'
      · rename_i differs
        exact ⟨differs, none'⟩
    refine ⟨by simpa [first] using before, ?_, ?_⟩
    · rw [List.map_cons, List.nodup_cons]
      refine ⟨fun again => ?_, distinct⟩
      obtain ⟨other, member, same⟩ := List.mem_map.mp again
      exact (apart other member).1 same
    · intro other member
      obtain rfl | member := List.mem_cons.mp member
      · exact first
      · exact (apart other member).2

theorem identityKeys_nodup {zones : List ImmutableZoneSnapshot}
    (calm : duplicateIdentityConflicts zones = []) :
    (zones.map ImmutableZoneSnapshot.identityKey).Nodup :=
  (identityKeys_nodup_from calm).2.1

theorem zone_unique_of_hasActuatorOf {snapshot : ImmutableEntrySnapshot}
    {zone other : ImmutableZoneSnapshot} {record : SafetyRecord} (valid : Holds record.guards)
    (distinct : (snapshot.zones.map ImmutableZoneSnapshot.identityKey).Nodup)
    (member : zone ∈ snapshot.zones) (member' : other ∈ snapshot.zones)
    (own : record.HasActuatorOf zone) (own' : record.HasActuatorOf other) : zone = other := by
  have nonempty : record.actuatorIdentity.registryEntryId ≠ some "" := by
    simp only [SafetyRecord.guards, ActuatorIdentity.guards, Checked.holds_append,
      Checked.holds_cons] at valid
    have filled := valid.1.1.1.1.2.1
    simp only [Bool.or_eq_false_iff, decide_eq_false_iff_not] at filled
    exact filled.1
  refine List.inj_on_of_nodup_map distinct member member' ?_
  unfold ImmutableZoneSnapshot.identityKey
  rw [← own.registered, ← own'.registered]
  cases registry : record.actuatorIdentity.registryEntryId with
  | some uuid =>
    have filled : uuid ≠ "" := fun empty => nonempty (by rw [registry, empty])
    simp [filled]
  | none =>
    have text := own.entity (own.registered.symm.trans registry)
    have text' := own'.entity (own'.registered.symm.trans registry)
    rw [text] at text'
    exact congrArg IdentityKey.text (Option.some.inj text')

/-- The record of a zone is in the state in which its history is looked up. -/
theorem ZoneSelected.base {env : PlanEnv} {snapshot : ImmutableEntrySnapshot}
    {state base : PlanState} {prior : Option SafetyRecord} {zone : ImmutableZoneSnapshot}
    {selected : SafetyRecord} {createdNew : Bool} (keyed : state.Keyed)
    (selection : ZoneSelected env snapshot state prior zone base selected createdNew) :
    base.Keyed ∧ base.records.get? selected.safetyRecordId = some selected := by
  cases selection with
  | existing _ reason => exact ⟨keyed, reason.found keyed⟩
  | fresh _ _ _ made opened =>
    obtain ⟨own, -⟩ := newZoneHistory_frame opened
    exact ⟨(keyed.setHistory own).setRecord rfl, Dict.get?_set_self ..⟩

/-- A selection that is no conflict finds one record of the zone's identity at most, and no
other identity that uses its entity. -/
theorem unambiguous_of_selectRecord {env : PlanEnv} {state : PlanState}
    {prior : Option SafetyRecord} {zone : ImmutableZoneSnapshot} {selection : RecordSelection}
    (selecting : selectRecord env state prior zone = .ok selection)
    (told : ∀ kind detail candidates, selection ≠ .conflict kind detail candidates) :
    (state.exactRecords zone).length ≤ 1 ∧ state.textualConflicts zone = [] := by
  by_contra ambiguous
  have several : 1 < (state.exactRecords zone).length ∨ state.textualConflicts zone ≠ [] := by
    by_contra none'
    obtain ⟨few, calm⟩ := not_or.mp none'
    exact ambiguous ⟨not_lt.mp few, not_not.mp calm⟩
  simp only [selectRecord, several, if_true] at selecting
  exact told _ _ _ (Except.ok.inj selecting).symm

/-- A turn without a conflict had nothing ambiguous to decide. -/
theorem planZone_unambiguous {env : PlanEnv} {snapshot : ImmutableEntrySnapshot}
    {originalActive : String → Option SafetyRecord} {state next : PlanState}
    {zone : ImmutableZoneSnapshot} (keyed : state.Keyed)
    (planned : planZone env snapshot originalActive state zone = .ok next)
    (calm : next.conflicts = []) :
    zone.identityConflictDetail = none ∧ (state.exactRecords zone).length ≤ 1 ∧
      state.textualConflicts zone = [] := by
  have unmarked : ¬ state.Marked next := by
    intro marked
    obtain ⟨detail, reported⟩ := marked.conflicts
    rw [calm] at reported
    simp at reported
  unfold planZone at planned
  split at planned
  · refine absurd (PlanState.markConflict_cases keyed (fun _ member => ?_) planned) unmarked
    exact List.mem_of_mem_filter member
  · rename_i unreported
    obtain ⟨selection, selecting, planned⟩ := Except.bind_eq_ok_iff.mp planned
    refine ⟨unreported, unambiguous_of_selectRecord selecting ?_⟩
    rintro kind detail candidates rfl
    have sound : ∀ candidate ∈ candidates, candidate ∈ state.records.values :=
      selectRecord_sound selecting
    exact unmarked (PlanState.markConflict_cases keyed sound planned)

/-- A turn without a conflict lets the zone take its record. -/
theorem planZone_takes {env : PlanEnv} {snapshot : ImmutableEntrySnapshot}
    {originalActive : String → Option SafetyRecord} {state next : PlanState}
    {zone : ImmutableZoneSnapshot} (keyed : state.Keyed)
    (planned : planZone env snapshot originalActive state zone = .ok next)
    (calm : next.conflicts = []) :
    state.conflicts = [] ∧ ∃ base selected createdNew record,
      ZoneSelected env snapshot state (originalActive zone.subentryId) zone base selected
        createdNew ∧
      ZoneTakes env snapshot base (originalActive zone.subentryId) (state.exactRecords zone) zone
        createdNew selected record next := by
  obtain marked | ⟨base, selected, createdNew, -, selection, continuing⟩ :=
    planZone_cases keyed planned
  · obtain ⟨detail, reported⟩ := marked.conflicts
    rw [calm] at reported
    simp at reported
  · have unreported : base.conflicts = state.conflicts := by
      cases selection <;> rfl
    cases continueZone_cases continuing with
    | unjoined detail _ _ => simp [PlanState.conflict] at calm
    | refused detail _ _ _ => simp [PlanState.conflict] at calm
    | @adopted joined _ rejoined record history planned joining adopted =>
      have outcome := joining.outcome (selection.base keyed).1
      refine ⟨?_, base, selected, createdNew, record, selection, ⟨joined, rejoined, history,
        planned, joining, adopted⟩⟩
      rw [← unreported, ← outcome.conflicts, ← calm, adopted.nextEq]

/-! ## What a zone takes -/

/-- The operational part depends on the fault of the record only. -/
theorem plannedZoneRuntime_of_sameFault {env : PlanEnv} {runtime : ZoneRuntime}
    {selected record : SafetyRecord} {zone : ImmutableZoneSnapshot} {sensor : SensorIdentity}
    {sameActuator reevaluated : Bool} (same : selected.SameFault record) :
    plannedZoneRuntime env runtime selected zone sensor sameActuator reevaluated =
      plannedZoneRuntime env runtime record zone sensor sameActuator reevaluated := by
  unfold plannedZoneRuntime
  rw [same.actuatorFault]

structure HistoryTaken (env : PlanEnv) (base : PlanState) (prior : Option SafetyRecord)
    (zone : ImmutableZoneSnapshot) (selected record : SafetyRecord)
    (history after : ZoneHistory) : Prop where
  held : base.histories.get? (continuingHistoryId prior selected) = some history
  taken : ∃ (joined : ZoneHistory) (sameActuator reevaluated : Bool),
    (selected.zoneHistoryId = continuingHistoryId prior selected ∧ joined = history ∨
      ∃ retained, base.histories.get? selected.zoneHistoryId = some retained ∧
        history.zoneHistoryId ≠ retained.zoneHistoryId ∧
        mergeZoneHistoryContinuity history retained = .ok joined) ∧
    after = joined.ownedBy zone.subentryId
      (plannedZoneRuntime env joined.zoneRuntime record zone zone.currentSensorIdentity
        sameActuator reevaluated) ∧
    (joined.zoneRuntime.session.isSome = true → sameActuator = true)
  valid : Holds after.guards

structure TakenOutcome (env : PlanEnv) (base next : PlanState) (prior : Option SafetyRecord)
    (zone : ImmutableZoneSnapshot) (selected record : SafetyRecord) : Prop where
  records : next.records = base.records.set selected.safetyRecordId record
  recordValid : Holds record.guards
  refers : record.zoneHistoryId = continuingHistoryId prior selected
  subentry : record.activeSubentryId = some zone.subentryId
  history : ∃ history after, HistoryTaken env base prior zone selected record history after ∧
    next.histories.get? (continuingHistoryId prior selected) = some after
  others : ∀ k history, k ≠ continuingHistoryId prior selected →
    next.histories.get? k = some history → base.histories.get? k = some history
  erased : ∀ k history, k ≠ continuingHistoryId prior selected →
    base.histories.get? k = some history →
    next.histories.get? k = some history ∨
      k = selected.zoneHistoryId ∧ history.zoneRuntime.session = none ∧
        base.referencedElsewhere selected.safetyRecordId k = false

theorem ZoneTakes.outcome {env : PlanEnv} {snapshot : ImmutableEntrySnapshot}
    {base next : PlanState} {prior : Option SafetyRecord} {exact : List SafetyRecord}
    {zone : ImmutableZoneSnapshot} {createdNew : Bool} {selected record : SafetyRecord}
    (keyed : base.Keyed)
    (takes : ZoneTakes env snapshot base prior exact zone createdNew selected record next) :
    TakenOutcome env base next prior zone selected record := by
  obtain ⟨joined, rejoined, history, planned, joining, adopted⟩ := takes.takes
  have outcome := joining.outcome keyed
  have same := outcome.continuing
  obtain ⟨id, -, subentry, refers⟩ := adopted.record_frame
  have plannedEq := adopted.plannedEq.trans (congrArg (history.ownedBy zone.subentryId)
    (plannedZoneRuntime_of_sameFault adopted.sameFault))
  have written : ∀ k, k ≠ continuingHistoryId prior selected →
      next.histories.get? k = joined.histories.get? k := by
    intro k other
    rw [adopted.nextEq, same]
    exact Dict.get?_set_of_ne _ _ other
  have own : next.histories.get? (continuingHistoryId prior selected) = some planned := by
    rw [adopted.nextEq, same]
    exact Dict.get?_set_self ..
  have records : next.records = base.records.set selected.safetyRecordId record := by
    rw [adopted.nextEq, ← outcome.id, ← id, ← outcome.records]
  have held := adopted.held
  rw [same] at held
  cases joining with
  -- The zone goes on with the history that the record has.
  | same alone =>
    refine ⟨records, adopted.recordValid, refers.trans same, subentry, ⟨history, planned,
      ⟨held, ?_, adopted.plannedValid⟩, own⟩, fun k found other held => (written k other) ▸ held,
      fun k found other held => .inl ((written k other).trans held)⟩
    exact ⟨history, _, _, .inl ⟨alone, rfl⟩, plannedEq, adopted.owned⟩
  -- The record's history was merged into the one that continues.
  | @merged continuing retained merged kept other held' held'' closed merging kept' valid =>
    have distinct : continuing.zoneHistoryId ≠ retained.zoneHistoryId := by
      rw [keyed.histories _ continuing held', keyed.histories _ retained held'']
      exact fun same => other same.symm
    have joinedHistory : history = merged := by
      rw [kept'] at held
      split at held
      · rw [Dict.get?_set_self] at held
        exact (Option.some.inj held).symm
      · rw [Dict.get?_erase_of_ne _ (Ne.symm other), Dict.get?_set_self] at held
        exact (Option.some.inj held).symm
    refine ⟨records, adopted.recordValid, refers.trans same, subentry, ⟨continuing, planned,
      ⟨held', ?_, adopted.plannedValid⟩, own⟩, fun k found differs held => ?_,
      fun k found differs held => ?_⟩
    · exact ⟨history, _, _, .inr ⟨retained, held'', distinct, joinedHistory ▸ merging⟩,
        plannedEq, adopted.owned⟩
    · rw [written k differs, kept'] at held
      split at held
      · exact (Dict.get?_set_of_ne _ _ differs).symm.trans held
      · by_cases erased : k = selected.zoneHistoryId
        · simp [erased] at held
        · rw [Dict.get?_erase_of_ne _ erased] at held
          exact (Dict.get?_set_of_ne _ _ differs).symm.trans held
    · rw [written k differs, kept']
      split
      · exact .inl ((Dict.get?_set_of_ne _ _ differs).trans held)
      · rename_i unreferenced
        by_cases erased : k = selected.zoneHistoryId
        · subst erased
          obtain rfl := Option.some.inj (held''.symm.trans held)
          exact .inr ⟨rfl, closed, by simpa using unreferenced⟩
        · rw [Dict.get?_erase_of_ne _ erased]
          exact .inl ((Dict.get?_set_of_ne _ _ differs).trans held)

/-! ## The records of a plan without conflicts -/

/-- Each planned zone owns one record of its actuator; the others' are still the Store's. -/
structure ZonesOwned (env : PlanEnv) (snapshot : ImmutableEntrySnapshot) (data : StoreFields)
    (earlier : List ImmutableZoneSnapshot) (state : PlanState) : Prop where
  /-- The IDs of the zones still to plan are not used yet. -/
  unminted : ∀ zone ∈ snapshot.zones, zone ∉ earlier →
    state.records.get? (env.mint zone.subentryId).safetyRecordId = none ∧
      state.histories.get? (env.mint zone.subentryId).zoneHistoryId = none
  current : ∀ k record zone, zone ∈ snapshot.zones → state.records.get? k = some record →
    record.activeSubentryId = some zone.subentryId → record.HasActuatorOf zone ∧
      Holds record.guards ∧ (zone ∉ earlier → data.safetyRecords.get? k = some record) ∧
      ∀ prior, zone ∈ earlier → data.originalActive zone.subentryId = some prior →
        record.zoneHistoryId = prior.zoneHistoryId
  owned : ∀ zone ∈ earlier, ∃ k record, state.records.get? k = some record ∧
    record.activeSubentryId = some zone.subentryId
  alone : ∀ zone ∈ earlier, ∀ k k' record record', state.records.get? k = some record →
    state.records.get? k' = some record' → record.activeSubentryId = some zone.subentryId →
    record'.activeSubentryId = some zone.subentryId → k = k'
  unplanned : ∀ zone ∈ snapshot.zones, zone ∉ earlier → ∀ k record,
    state.records.get? k = some record → record.activeSubentryId = some zone.subentryId →
    sameActuator record zone = true
  /-- A record that no planned zone owns still refers to its history of the Store. -/
  untaken : ∀ k record, state.records.get? k = some record →
    (∃ zone ∈ earlier, record.activeSubentryId = some zone.subentryId) ∨
      ∃ original, data.safetyRecords.get? k = some original ∧
        record.zoneHistoryId = original.zoneHistoryId

/-- A retained record that a configured zone owns is the Store's, with the zone's actuator. -/
theorem RecordRetained.current_of_active {env : PlanEnv} {snapshot : ImmutableEntrySnapshot}
    {k : String} {old after : SafetyRecord} {zone : ImmutableZoneSnapshot}
    (retained : RecordRetained env snapshot k old after) (member : zone ∈ snapshot.zones)
    (active : after.activeSubentryId = some zone.subentryId) :
    after = old ∧ sameActuator after zone = true := by
  cases retained with
  | @current subentryId configured owned bySubentry same =>
    have here := ImmutableEntrySnapshot.bySubentryId_of_mem member
    obtain rfl := Option.some.inj (owned.symm.trans active)
    obtain rfl := Option.some.inj (bySubentry.symm.trans here)
    exact ⟨rfl, same⟩
  | @reconciled base _ history origin _ checked =>
    obtain ⟨rfl, -⟩ := reconcileRetainedRecord_eq_ok checked
    obtain ⟨status, blockers, owner, incident, lifecycle, same⟩ := @SafetyRecord.retained_frame
      base env.registry history.zoneRuntime.session (env.recordAssessment k)
    rw [same] at active
    obtain ⟨rfl, unowned⟩ | ⟨subentryId, -, rfl, -⟩ := origin
    · have unowned' : base.activeSubentryId = some zone.subentryId := active
      rw [unowned] at unowned'
      cases unowned'
    · cases active

theorem zonesOwned_of_retained {env : PlanEnv} {snapshot : ImmutableEntrySnapshot}
    {data : StoreData} {retained : PlanState}
    (fresh : FreshIds env snapshot data.toStoreFields)
    (owners : OwnersRetained env snapshot data.toStoreFields retained)
    (histories : HistoriesRetained snapshot data.toStoreFields retained) :
    ZonesOwned env snapshot data.toStoreFields [] retained := by
  have current : ∀ k record zone, zone ∈ snapshot.zones → retained.records.get? k = some record →
      record.activeSubentryId = some zone.subentryId →
      data.safetyRecords.get? k = some record ∧ sameActuator record zone = true := by
    intro k record zone member found active
    obtain ⟨original, held, made⟩ := owners.stored found
    obtain ⟨rfl, same⟩ := made.current_of_active member active
    exact ⟨held, same⟩
  refine ⟨fun zone member _ => ⟨owners.absent _ (fresh.records zone member),
    histories.absent _ (fresh.histories zone member)⟩, ?_,
    fun _ none' => absurd none' List.not_mem_nil, fun _ none' => absurd none' List.not_mem_nil, ?_, fun k record found => .inr ?_⟩
  · intro k record zone member found active
    obtain ⟨held, same⟩ := current k record zone member found active
    have valid := data.consistent.records k record held
    exact ⟨hasActuatorOf_of_sameActuator valid same, valid, fun _ => held,
      fun _ none' => absurd none' List.not_mem_nil⟩
  · intro zone member _ k record found active
    exact (current k record zone member found active).2
  · obtain ⟨original, held, made⟩ := owners.stored found
    exact ⟨original, held, made.frame.2.1⟩

/-- A record that a zone takes is not the record of a zone that is planned. -/
theorem ZonesOwned.unplanned_of_reason {env : PlanEnv} {snapshot : ImmutableEntrySnapshot}
    {data : StoreData} {earlier : List ImmutableZoneSnapshot} {state : PlanState}
    {zone other : ImmutableZoneSnapshot} {selected : SafetyRecord} (keyed : state.Keyed)
    (distinct : (snapshot.zones.map ImmutableZoneSnapshot.identityKey).Nodup)
    (kept : CurrentKept snapshot data.toStoreFields state)
    (zones : ZonesOwned env snapshot data.toStoreFields earlier state)
    (member : zone ∈ snapshot.zones) (member' : other ∈ snapshot.zones)
    (reason : SelectionReason state (data.originalActive zone.subentryId) zone selected)
    (active : selected.activeSubentryId = some other.subentryId) : other = zone := by
  have present := reason.found keyed
  obtain ⟨own, valid, -⟩ := zones.current _ selected other member' present active
  refine zone_unique_of_hasActuatorOf valid distinct member' member own ?_
  cases reason with
  | @current prior owned same found =>
    obtain ⟨activePrior, k, held⟩ := StoreFields.originalActive_eq_some owned
    have key := data.consistent.recordKey k prior held
    obtain ⟨after, found', own', -⟩ := kept k prior zone.subentryId zone held activePrior
      (ImmutableEntrySnapshot.bySubentryId_of_mem member) same
    rw [← key, found] at found'
    exact Option.some.inj found' ▸ own'
  | exact _ only =>
    have exact := List.of_mem_filter
      (show selected ∈ state.exactRecords zone by simp [only])
    simp only [Bool.and_eq_true, decide_eq_true_eq] at exact
    exact ⟨exact.2, fun unregistered => by simp [unregistered] at exact⟩
  | mapped _ _ only =>
    have mapped := List.of_mem_filter
      (show selected ∈ state.mappedCandidates zone by simp [only])
    simp [active] at mapped

/-- Away from the record that a zone selects the plan is as before, and the record is not that
of a zone planned earlier. -/
structure SelectedApart (env : PlanEnv) (snapshot : ImmutableEntrySnapshot)
    (earlier : List ImmutableZoneSnapshot) (state base : PlanState) (zone : ImmutableZoneSnapshot)
    (selected : SafetyRecord) : Prop where
  records : ∀ k, k ≠ selected.safetyRecordId → base.records.get? k = state.records.get? k
  histories : ∀ k history, state.histories.get? k = some history →
    base.histories.get? k = some history
  unowned : ∀ other ∈ earlier, ∀ record,
    state.records.get? selected.safetyRecordId = some record →
    record.activeSubentryId ≠ some other.subentryId
  alone : ∀ k record, base.records.get? k = some record →
    record.activeSubentryId = some zone.subentryId → k = selected.safetyRecordId
  unminted : ∀ other ∈ snapshot.zones, other ∉ earlier ++ [zone] →
    (env.mint other.subentryId).safetyRecordId ≠ selected.safetyRecordId ∧
    base.histories.get? (env.mint other.subentryId).zoneHistoryId = none

theorem not_mem_earlier {snapshot : ImmutableEntrySnapshot}
    {earlier later : List ImmutableZoneSnapshot} {zone : ImmutableZoneSnapshot}
    (distinct : (snapshot.zones.map ImmutableZoneSnapshot.identityKey).Nodup)
    (listed : snapshot.zones = earlier ++ zone :: later) : zone ∉ earlier := by
  have nodup : snapshot.zones.Nodup := List.Nodup.of_map _ distinct
  rw [listed] at nodup
  exact fun again => (List.nodup_append.mp nodup).2.2 zone again zone (by simp) rfl

theorem ZoneSelected.current {env : PlanEnv} {snapshot : ImmutableEntrySnapshot}
    {state base : PlanState} {zone : ImmutableZoneSnapshot} {prior : Option SafetyRecord}
    {record selected : SafetyRecord} {createdNew : Bool}
    (selection : ZoneSelected env snapshot state prior zone base selected createdNew)
    (owned : prior = some record) (same : sameActuator record zone = true)
    (keyed : state.Keyed) : selected.safetyRecordId = record.safetyRecordId := by
  subst owned
  cases selection with
  | existing _ reason =>
    cases reason with
    | current owned' _ found =>
      obtain rfl := Option.some.inj owned'
      exact keyed.records _ selected found
    | exact other | mapped other => simp [same] at other
  | fresh other => simp [same] at other

theorem ZonesOwned.apart {env : PlanEnv} {snapshot : ImmutableEntrySnapshot} {data : StoreData}
    {earlier later : List ImmutableZoneSnapshot} {state base : PlanState}
    {zone : ImmutableZoneSnapshot} {selected : SafetyRecord} {createdNew : Bool}
    (fresh : FreshIds env snapshot data.toStoreFields)
    (listed : snapshot.zones = earlier ++ zone :: later) (keyed : state.Keyed)
    (distinct : (snapshot.zones.map ImmutableZoneSnapshot.identityKey).Nodup)
    (kept : CurrentKept snapshot data.toStoreFields state)
    (zones : ZonesOwned env snapshot data.toStoreFields earlier state)
    (selection : ZoneSelected env snapshot state (data.originalActive zone.subentryId) zone base
      selected createdNew) :
    SelectedApart env snapshot earlier state base zone selected := by
  have member : zone ∈ snapshot.zones := by simp [listed]
  have unplanned := not_mem_earlier distinct listed
  have unminted : ∀ other ∈ snapshot.zones, other ∉ earlier ++ [zone] →
      state.records.get? (env.mint other.subentryId).safetyRecordId = none ∧
        state.histories.get? (env.mint other.subentryId).zoneHistoryId = none :=
    fun other member' unplanned' => zones.unminted other member' (fun e => unplanned' (by simp [e]))
  -- The zone's own record, were it not the selected one, would have been selected.
  have alone : ∀ k record, k ≠ selected.safetyRecordId → state.records.get? k = some record →
      record.activeSubentryId ≠ some zone.subentryId := by
    intro k record differs found active
    have stored := (zones.current k record zone member found active).2.2.1 unplanned
    have prior := StoreData.originalActive_of_active stored active
    have same := zones.unplanned zone member unplanned k record found active
    have key := data.consistent.recordKey k record stored
    exact differs ((selection.current prior same keyed).trans key).symm
  cases selection with
  | existing _ reason =>
    refine ⟨fun _ _ => rfl, fun _ _ held => held, fun other planned record found active => ?_,
      fun k record found active => not_not.mp fun differs => alone k record differs found active,
      fun other member' unplanned' => ⟨fun same => ?_, (unminted other member' unplanned').2⟩⟩
    · obtain rfl := Option.some.inj ((reason.found keyed).symm.trans found)
      have same := zones.unplanned_of_reason keyed distinct kept member
        (by simp [listed, planned]) reason active
      exact unplanned (same ▸ planned)
    · have absent' := (unminted other member' unplanned').1
      rw [same, reason.found keyed] at absent'
      cases absent'
  | fresh _ _ _ made opened =>
    obtain ⟨recordId, historyId, -⟩ := newSafetyRecord_frame made
    obtain ⟨newRecord, newHistory⟩ := zones.unminted zone member unplanned
    refine ⟨fun k other => Dict.get?_set_of_ne _ _ other, fun k history held => ?_,
      fun other planned record found => ?_, fun k record found active => not_not.mp fun differs =>
        alone k record differs ((Dict.get?_set_of_ne _ _ differs).symm.trans found) active,
      fun other member' unplanned' => ?_⟩
    · refine (Dict.get?_set_of_ne _ _ ?_).trans held
      rintro rfl
      rw [historyId, newHistory] at held
      cases held
    · rw [recordId, newRecord] at found
      cases found
    · have differs : other.subentryId ≠ zone.subentryId := fun same =>
        unplanned' (by simp [ImmutableEntrySnapshot.zone_unique member member' same])
      refine ⟨fun same => differs (fresh.recordsDistinct other member' zone member
        (same.trans recordId)), ?_⟩
      rw [historyId, Dict.get?_set_of_ne _ _ fun same => differs
        (fresh.historiesDistinct other member' zone member same)]
      exact (unminted other member' unplanned').2

theorem ZonesOwned.taken {env : PlanEnv} {snapshot : ImmutableEntrySnapshot} {data : StoreData}
    {earlier later : List ImmutableZoneSnapshot} {state base next : PlanState}
    {zone : ImmutableZoneSnapshot} {selected record : SafetyRecord}
    (listed : snapshot.zones = earlier ++ zone :: later)
    (distinct : (snapshot.zones.map ImmutableZoneSnapshot.identityKey).Nodup)
    (zones : ZonesOwned env snapshot data.toStoreFields earlier state)
    (apart : SelectedApart env snapshot earlier state base zone selected)
    (identity : record.actuatorIdentity = durableActuatorIdentity zone)
    (outcome : TakenOutcome env base next (data.originalActive zone.subentryId) zone selected
      record) :
    ZonesOwned env snapshot data.toStoreFields (earlier ++ [zone]) next := by
  have member : zone ∈ snapshot.zones := by simp [listed]
  have unplanned := not_mem_earlier distinct listed
  have subentry := outcome.subentry
  -- Of the records only the selected one has changed since the zones before this one.
  have own : next.records.get? selected.safetyRecordId = some record := by
    rw [outcome.records, Dict.get?_set_self]
  have before : ∀ k, k ≠ selected.safetyRecordId →
      next.records.get? k = state.records.get? k := by
    intro k differs
    rw [outcome.records, Dict.get?_set_of_ne _ _ differs, apart.records k differs]
  refine ⟨fun other member' unplanned' => ?_, fun k found other member' held active => ?_,
    fun other planned => ?_, fun other planned k k' found found' held held' active active' => ?_,
    fun other member' unplanned' k found held active => ?_, fun k found held => ?_⟩
  · -- The IDs for the zones to come are still unused.
    obtain ⟨differs, absent'⟩ := apart.unminted other member' unplanned'
    refine ⟨?_, ?_⟩
    · rw [before _ differs]
      exact (zones.unminted other member' (fun e => unplanned' (by simp [e]))).1
    · obtain ⟨history, after, taken, -⟩ := outcome.history
      cases found : next.histories.get? (env.mint other.subentryId).zoneHistoryId with
      | none => rfl
      | some history' =>
        by_cases here : (env.mint other.subentryId).zoneHistoryId =
            continuingHistoryId (data.originalActive zone.subentryId) selected
        · rw [here, taken.held] at absent'
          cases absent'
        · rw [outcome.others _ history' here found] at absent'
          cases absent'
  · -- The zone has the selected record, and the others keep theirs.
    by_cases here : k = selected.safetyRecordId
    · obtain rfl := Option.some.inj (own.symm.trans (here ▸ held))
      obtain rfl := ImmutableEntrySnapshot.zone_unique member member'
        (Option.some.inj (active.symm.trans subentry))
      refine ⟨SafetyRecord.hasActuatorOf_of_durable identity, outcome.recordValid,
        fun absent' => absurd (by simp) absent', fun prior _ owned => ?_⟩
      rw [outcome.refers, owned]
      rfl
    · rw [before k here] at held
      obtain ⟨has, valid, stored, refers⟩ := zones.current k found other member' held active
      refine ⟨has, valid, fun absent' => stored (fun e => absent' (by simp [e])),
        fun prior planned owned => ?_⟩
      obtain planned | rfl : other ∈ earlier ∨ other = zone := by simpa using planned
      · exact refers prior planned owned
      · obtain ⟨activePrior, k', held'⟩ := StoreFields.originalActive_eq_some owned
        have key := data.consistent.recordSubentry k k' found prior other.subentryId
          (stored unplanned) held' active activePrior
        subst key
        exact congrArg SafetyRecord.zoneHistoryId (Option.some.inj ((stored unplanned).symm.trans held'))
  · -- Every zone planned so far has a record.
    obtain planned | rfl : other ∈ earlier ∨ other = zone := by simpa using planned
    · obtain ⟨k, found, held, active⟩ := zones.owned other planned
      have differs : k ≠ selected.safetyRecordId := by
        rintro rfl
        exact apart.unowned other planned found held active
      exact ⟨k, found, (before k differs).trans held, active⟩
    · exact ⟨_, record, own, subentry⟩
  · -- A record of a zone planned earlier was there before; this zone's is the selected one.
    obtain planned | rfl : other ∈ earlier ∨ other = zone := by simpa using planned
    · have differs : ∀ k found, next.records.get? k = some found →
          found.activeSubentryId = some other.subentryId → k ≠ selected.safetyRecordId := by
        rintro k found held active rfl
        obtain rfl := Option.some.inj (own.symm.trans held)
        have same := ImmutableEntrySnapshot.zone_unique member (by simp [listed, planned])
          (Option.some.inj (active.symm.trans subentry))
        exact unplanned (same ▸ planned)
      exact zones.alone other planned k k' found found'
        ((before k (differs k found held active)).symm.trans held)
        ((before k' (differs k' found' held' active')).symm.trans held') active active'
    · have selects : ∀ k found, next.records.get? k = some found →
          found.activeSubentryId = some other.subentryId → k = selected.safetyRecordId := by
        intro k found held active
        by_contra differs
        rw [outcome.records, Dict.get?_set_of_ne _ _ differs] at held
        exact differs (apart.alone k found held active)
      rw [selects k found held active, selects k' found' held' active']
  · -- No zone to come owns the selected record.
    have differs : k ≠ selected.safetyRecordId := by
      rintro rfl
      obtain rfl := Option.some.inj (own.symm.trans held)
      have same := ImmutableEntrySnapshot.zone_unique member member'
        (Option.some.inj (active.symm.trans subentry))
      exact unplanned' (by simp [same])
    exact zones.unplanned other member' (fun e => unplanned' (by simp [e])) k found
      ((before k differs).symm.trans held) active
  · -- A record that a zone has taken stays taken.
    by_cases here : k = selected.safetyRecordId
    · obtain rfl := Option.some.inj (own.symm.trans (here ▸ held))
      exact .inl ⟨zone, by simp, subentry⟩
    · refine (zones.untaken k found ((before k here).symm.trans held)).imp ?_ id
      rintro ⟨other, planned, active⟩
      exact ⟨other, by simp [planned], active⟩

end MoistureLoop
