import MoistureLoop.Runtime.Planner

/-! # What one step of a plan can do

The inversion lemmas of the plan: what a turn of the first loop does to the owner it looks at,
and which of its cases a turn of the second loop takes.  Everything said about a plan is
derived from these, and not from the code again. -/

namespace MoistureLoop

open Checked (Holds)

theorem getKey_eq_ok_iff {V : Type} {d : Dict String V} {key : String} {value : V} :
    getKey d key = .ok value ↔ d.get? key = some value := by
  unfold getKey
  cases d.get? key <;> simp

/-! ## The first loop -/

/-- How a turn of the first loop leaves the owner it looks at. -/
inductive OwnerRetained (env : PlanEnv) (snapshot : ImmutableEntrySnapshot) (state : PlanState)
    (safetyRecordId : String) (old : SafetyRecord) : PlanState → Prop where
  /-- The owner still has its zone and its actuator. -/
  | current {subentryId : String} {zone : ImmutableZoneSnapshot} :
      old.activeSubentryId = some subentryId → snapshot.bySubentryId subentryId = some zone →
      sameActuator old zone = true → OwnerRetained env snapshot state safetyRecordId old state
  /-- A record without a subentry is reconciled. -/
  | retained {history : ZoneHistory} {record : SafetyRecord} : old.activeSubentryId = none →
      state.histories.get? old.zoneHistoryId = some history →
      reconcileRetainedRecord env.registry old history (env.recordAssessment safetyRecordId) =
        .ok record →
      OwnerRetained env snapshot state safetyRecordId old
        { state with records := state.records.set safetyRecordId record }
  /-- The zone has another actuator now. -/
  | replaced {subentryId : String} {zone : ImmutableZoneSnapshot} {history : ZoneHistory}
      {record : SafetyRecord} : old.activeSubentryId = some subentryId →
      snapshot.bySubentryId subentryId = some zone → sameActuator old zone = false →
      Holds (old.displaced subentryId).guards →
      state.histories.get? old.zoneHistoryId = some history →
      reconcileRetainedRecord env.registry (old.displaced subentryId) history
        (env.recordAssessment safetyRecordId) = .ok record →
      OwnerRetained env snapshot state safetyRecordId old
        { state with records := state.records.set safetyRecordId record }
  /-- The zone is gone. -/
  | removed {subentryId : String} {history reread : ZoneHistory} {record : SafetyRecord} :
      old.activeSubentryId = some subentryId → snapshot.bySubentryId subentryId = none →
      Holds (old.displaced subentryId).guards →
      state.histories.get? old.zoneHistoryId = some history →
      Holds (history.vacated subentryId).guards →
      (state.histories.set history.zoneHistoryId (history.vacated subentryId)).get?
        old.zoneHistoryId = some reread →
      reconcileRetainedRecord env.registry (old.displaced subentryId) reread
        (env.recordAssessment safetyRecordId) = .ok record →
      OwnerRetained env snapshot state safetyRecordId old
        { state with
          records := state.records.set safetyRecordId record
          histories := state.histories.set history.zoneHistoryId (history.vacated subentryId) }

theorem PlanState.reconcileRetained_eq_ok {env : PlanEnv} {state next : PlanState}
    {safetyRecordId : String} {record : SafetyRecord}
    (reconciled : state.reconcileRetained env safetyRecordId record = .ok next) :
    ∃ history after, state.histories.get? record.zoneHistoryId = some history ∧
      reconcileRetainedRecord env.registry record history (env.recordAssessment safetyRecordId) =
        .ok after ∧
      next = { state with records := state.records.set safetyRecordId after } := by
  simp only [reconcileRetained, Except.bind_eq_ok_iff, getKey_eq_ok_iff] at reconciled
  obtain ⟨history, held, after, retained, written⟩ := reconciled
  exact ⟨history, after, held, retained, (Except.ok.inj written).symm⟩

theorem retainOwner_cases {env : PlanEnv} {snapshot : ImmutableEntrySnapshot}
    {state next : PlanState} {safetyRecordId : String} {old : SafetyRecord}
    (retained : retainOwner env snapshot state (safetyRecordId, old) = .ok next) :
    OwnerRetained env snapshot state safetyRecordId old next := by
  unfold retainOwner at retained
  cases owned : old.activeSubentryId with
  | none =>
    simp only [owned] at retained
    obtain ⟨history, record, held, reconciled, rfl⟩ :=
      PlanState.reconcileRetained_eq_ok retained
    exact .retained owned held reconciled
  | some subentryId =>
    cases configured : snapshot.bySubentryId subentryId with
    | some zone =>
      simp only [owned, configured] at retained
      split at retained
      · rename_i same
        obtain rfl := Except.ok.inj retained
        exact .current owned configured same
      · rename_i other
        simp only [Except.bind_eq_ok_iff, SafetyRecord.evolve_eq_ok_iff] at retained
        obtain ⟨record, ⟨valid, rfl⟩, retained⟩ := retained
        obtain ⟨history, record, held, reconciled, rfl⟩ :=
          PlanState.reconcileRetained_eq_ok retained
        exact .replaced owned configured (Bool.eq_false_iff.mpr other) valid held reconciled
    | none =>
      simp only [owned, configured, Except.bind_eq_ok_iff, SafetyRecord.evolve_eq_ok_iff,
        getKey_eq_ok_iff, checkValue_eq_ok_iff] at retained
      obtain ⟨record, ⟨valid, rfl⟩, history, held, _, ⟨vacated, rfl⟩, retained⟩ := retained
      obtain ⟨reread, record, held', reconciled, rfl⟩ :=
        PlanState.reconcileRetained_eq_ok retained
      exact .removed owned configured valid held vacated held' reconciled

/-! ## Conflicts -/

/-- The maps agree with the IDs inside them. -/
structure PlanState.Keyed (state : PlanState) : Prop where
  records : ∀ k record, state.records.get? k = some record → record.safetyRecordId = k
  histories : ∀ k history, state.histories.get? k = some history → history.zoneHistoryId = k

def SafetyRecord.KeptOrMarked (record after : SafetyRecord) : Prop :=
  after = record ∨ ∃ incident, after = record.conflicting incident ∧ Holds after.guards

/-- Conflicts mark records; histories and the other records stay. -/
structure PlanState.Marked (state next : PlanState) : Prop where
  histories : next.histories = state.histories
  conflicts : ∃ detail, next.conflicts = state.conflicts ++ [detail]
  absent : ∀ k, state.records.get? k = none → next.records.get? k = none
  records : ∀ k record, state.records.get? k = some record →
    ∃ after, next.records.get? k = some after ∧ record.KeptOrMarked after

theorem PlanState.markConflict_cases {state next : PlanState} {kind : IdentityIncidentKind}
    {detail : String} {candidates : List SafetyRecord} (keyed : state.Keyed)
    (known : ∀ candidate ∈ candidates, candidate ∈ state.records.values)
    (marked : state.markConflict kind detail candidates = .ok next) : state.Marked next := by
  have kept : ∀ k record, state.records.get? k = some record →
      ∃ after, state.records.get? k = some after ∧ record.KeptOrMarked after :=
    fun k record found => ⟨record, found, .inl rfl⟩
  refine @Checked.foldlM_invariant _ _ _ _ state.Marked _ _ _ ?_ ?_ marked
  · intro before candidate after member inductionHypothesis stepped
    simp only [Except.bind_eq_ok_iff, checkValue_eq_ok_iff, SafetyRecord.evolve_eq_ok_iff] at stepped
    obtain ⟨incident, -, _, ⟨valid, rfl⟩, written⟩ := stepped
    obtain rfl := Except.ok.inj written
    obtain ⟨key, found⟩ := Dict.mem_values_iff_get?.mp (known candidate member)
    have own := keyed.records key candidate found
    refine ⟨inductionHypothesis.histories, inductionHypothesis.conflicts, ?_, ?_⟩
    · intro k absent
      have other : k ≠ candidate.safetyRecordId := by
        rintro rfl
        rw [own, found] at absent
        cases absent
      show (before.records.set _ _).get? k = none
      rw [Dict.get?_set_of_ne _ _ other]
      exact inductionHypothesis.absent k absent
    · intro k record held
      show ∃ after, (before.records.set _ _).get? k = some after ∧ _
      by_cases same : k = candidate.safetyRecordId
      · obtain rfl : record = candidate := by
          rw [same, own, found] at held
          exact (Option.some.inj held).symm
        exact ⟨_, by rw [same, Dict.get?_set_self], .inr ⟨incident, rfl, valid⟩⟩
      · obtain ⟨after, found, mark⟩ := inductionHypothesis.records k record held
        exact ⟨after, by rw [Dict.get?_set_of_ne _ _ same, found], mark⟩
  · exact ⟨rfl, ⟨detail, rfl⟩, fun k absent => absent, kept⟩

/-! ## The second loop -/

inductive SelectionReason (state : PlanState) (prior : Option SafetyRecord)
    (zone : ImmutableZoneSnapshot) (selected : SafetyRecord) : Prop where
  /-- The zone's own record still has the zone's actuator. -/
  | current {record : SafetyRecord} : prior = some record → sameActuator record zone = true →
      state.records.get? record.safetyRecordId = some selected →
      SelectionReason state prior zone selected
  /-- It is the one record of the zone's Registry identity. -/
  | exact : prior.all (fun record => !sameActuator record zone) = true →
      state.exactRecords zone = [selected] → SelectionReason state prior zone selected
  /-- It is the one record of the subentry whose identity is missing. -/
  | mapped : prior.all (fun record => !sameActuator record zone) = true →
      state.exactRecords zone = [] → state.mappedCandidates zone = [selected] →
      SelectionReason state prior zone selected

/-- The record of a zone, found or made, and the state in which its history is looked up. -/
inductive ZoneSelected (env : PlanEnv) (snapshot : ImmutableEntrySnapshot) (state : PlanState)
    (prior : Option SafetyRecord) (zone : ImmutableZoneSnapshot) :
    PlanState → SafetyRecord → Bool → Prop where
  | existing {selected : SafetyRecord} :
      selectRecord env state prior zone = .ok (.existing selected) →
      SelectionReason state prior zone selected →
      ZoneSelected env snapshot state prior zone state selected false
  | fresh {selected : SafetyRecord} {history : ZoneHistory} :
      prior.all (fun record => !sameActuator record zone) = true →
      state.exactRecords zone = [] → state.unregisteredConflicts zone = [] →
      newSafetyRecord env snapshot zone = .ok selected →
      newZoneHistory env selected zone = .ok history →
      ZoneSelected env snapshot state prior zone
        { state with
          records := state.records.set selected.safetyRecordId selected
          histories := state.histories.set selected.zoneHistoryId history } selected true

private theorem filter_sameActuator_eq_none {prior : Option SafetyRecord}
    {zone : ImmutableZoneSnapshot}
    (other : prior.filter (fun record => sameActuator record zone) = none) :
    prior.all (fun record => !sameActuator record zone) = true := by
  cases prior with
  | none => rfl
  | some record => simpa using other

def RecordSelection.Sound (state : PlanState) (prior : Option SafetyRecord)
    (zone : ImmutableZoneSnapshot) : RecordSelection → Prop
  | .conflict _ _ candidates => ∀ candidate ∈ candidates, candidate ∈ state.records.values
  | .existing selected => SelectionReason state prior zone selected
  | .fresh => prior.all (fun record => !sameActuator record zone) = true ∧
      state.exactRecords zone = [] ∧ state.unregisteredConflicts zone = []

private theorem mem_values_of_mem_filter {state : PlanState} {p : SafetyRecord → Bool}
    {candidate : SafetyRecord} (member : candidate ∈ state.records.values.filter p) :
    candidate ∈ state.records.values := List.mem_of_mem_filter member

private theorem unmatched_sound {env : PlanEnv} {state : PlanState} {prior : Option SafetyRecord}
    {zone : ImmutableZoneSnapshot}
    (unowned : prior.all (fun record => !sameActuator record zone) = true)
    (exact : state.exactRecords zone = []) :
    (selectRecord.unmatched env state zone).Sound state prior zone := by
  unfold selectRecord.unmatched
  simp only
  split
  · exact fun candidate => mem_values_of_mem_filter
  · rename_i unambiguous
    simp only [not_or, not_not] at unambiguous
    exact ⟨unowned, exact, unambiguous.1⟩

theorem selectRecord_sound {env : PlanEnv} {state : PlanState} {prior : Option SafetyRecord}
    {zone : ImmutableZoneSnapshot} {selection : RecordSelection}
    (selecting : selectRecord env state prior zone = .ok selection) :
    selection.Sound state prior zone := by
  unfold selectRecord at selecting
  simp only at selecting
  split at selecting
  · obtain rfl := Except.ok.inj selecting
    intro candidate member
    exact (List.mem_append.mp member).elim mem_values_of_mem_filter mem_values_of_mem_filter
  · rename_i alone
    simp only [not_or, not_not, not_lt] at alone
    -- At most one record has the zone's identity, so there is none once it is not the only one.
    have none_of_not_one : (∀ record, state.exactRecords zone ≠ [record]) →
        state.exactRecords zone = [] := by
      intro several
      cases found : state.exactRecords zone with
      | nil => rfl
      | cons first rest =>
        have few : rest = [] := by simpa [found] using alone.1
        exact absurd (by rw [found, few]) (several first)
    split at selecting
    · rename_i record current
      obtain ⟨owned, same⟩ := Option.filter_eq_some_iff.mp current
      cases held : state.records.get? record.safetyRecordId with
      | none => simp [getKey, held, Except.map] at selecting
      | some selected =>
        simp only [getKey, held, Except.map] at selecting
        obtain rfl := Except.ok.inj selecting
        exact .current owned same held
    · rename_i other
      have unowned := filter_sameActuator_eq_none other
      split at selecting
      · rename_i record exact
        obtain rfl := Except.ok.inj selecting
        exact .exact unowned exact
      · rename_i record mapped several
        have exact := none_of_not_one several
        split at selecting
        · obtain rfl := Except.ok.inj selecting
          exact .mapped unowned exact mapped
        · obtain rfl := Except.ok.inj selecting
          exact unmatched_sound unowned exact
      · rename_i several _
        obtain rfl := Except.ok.inj selecting
        exact unmatched_sound unowned (none_of_not_one several)

/-- A turn of the second loop marks a conflict or goes on with a record. -/
theorem planZone_cases {env : PlanEnv} {snapshot : ImmutableEntrySnapshot}
    {originalActive : String → Option SafetyRecord} {state next : PlanState}
    {zone : ImmutableZoneSnapshot} (keyed : state.Keyed)
    (planned : planZone env snapshot originalActive state zone = .ok next) :
    state.Marked next ∨ ∃ base selected createdNew, zone.identityConflictDetail = none ∧
      ZoneSelected env snapshot state (originalActive zone.subentryId) zone base selected
        createdNew ∧
      continueZone env snapshot base (originalActive zone.subentryId) (state.exactRecords zone)
        selected zone createdNew = .ok next := by
  unfold planZone at planned
  split at planned
  · exact .inl (PlanState.markConflict_cases keyed (fun _ => mem_values_of_mem_filter) planned)
  · rename_i unreported
    simp only [Except.bind_eq_ok_iff] at planned
    obtain ⟨selection, selecting, planned⟩ := planned
    have sound := selectRecord_sound selecting
    cases selection with
    | conflict kind detail candidates =>
      exact .inl (PlanState.markConflict_cases keyed sound planned)
    | existing selected => exact .inr ⟨state, selected, false, unreported, .existing selecting sound,
      planned⟩
    | fresh =>
      obtain ⟨unowned, exact, unregistered⟩ := sound
      simp only [Except.bind_eq_ok_iff] at planned
      obtain ⟨selected, made, history, opened, planned⟩ := planned
      exact .inr ⟨_, selected, true, unreported,
        .fresh unowned exact unregistered made opened, planned⟩

/-! ## The history that continues -/

inductive JoinedHistories (state : PlanState) (prior : Option SafetyRecord)
    (selected : SafetyRecord) : PlanState → SafetyRecord → Prop where
  | same : selected.zoneHistoryId = continuingHistoryId prior selected →
      JoinedHistories state prior selected state selected
  | merged {continuing retained merged : ZoneHistory} {kept : Dict String ZoneHistory} :
      selected.zoneHistoryId ≠ continuingHistoryId prior selected →
      state.histories.get? (continuingHistoryId prior selected) = some continuing →
      state.histories.get? selected.zoneHistoryId = some retained →
      retained.zoneRuntime.session = none →
      mergeZoneHistoryContinuity continuing retained = .ok merged →
      kept = (if state.referencedElsewhere selected.safetyRecordId selected.zoneHistoryId then
          state.histories.set (continuingHistoryId prior selected) merged
        else (state.histories.set (continuingHistoryId prior selected) merged).erase
          selected.zoneHistoryId) →
      Holds (selected.rejoined (continuingHistoryId prior selected)).guards →
      JoinedHistories state prior selected { state with histories := kept }
        (selected.rejoined (continuingHistoryId prior selected))

theorem joinHistories_cases {state : PlanState} {prior : Option SafetyRecord}
    {selected : SafetyRecord} {outcome : Planned (PlanState × SafetyRecord)}
    (joining : joinHistories state prior selected = .ok outcome) :
    match outcome with
    | .conflict _ => ∃ retained, state.histories.get? selected.zoneHistoryId = some retained ∧
        retained.zoneRuntime.session.isSome = true
    | .proceed (joined, record) => JoinedHistories state prior selected joined record := by
  unfold joinHistories at joining
  simp only at joining
  split at joining
  · rename_i same
    obtain rfl := Except.ok.inj joining
    exact .same same
  · rename_i other
    simp only [Except.bind_eq_ok_iff, getKey_eq_ok_iff] at joining
    obtain ⟨continuing, held, retained, kept, joining⟩ := joining
    split at joining
    · rename_i held'
      obtain rfl := Except.ok.inj joining
      exact ⟨retained, kept, held'⟩
    · rename_i closed
      simp only [Except.bind_eq_ok_iff, SafetyRecord.evolve_eq_ok_iff] at joining
      obtain ⟨merged, merging, record, ⟨valid, rfl⟩, joining⟩ := joining
      obtain rfl := Except.ok.inj joining
      exact .merged other held kept (by simpa using closed) merging rfl valid

structure ZoneAdopted (env : PlanEnv) (snapshot : ImmutableEntrySnapshot) (joined : PlanState)
    (prior : Option SafetyRecord) (exact : List SafetyRecord) (selected : SafetyRecord)
    (zone : ImmutableZoneSnapshot) (createdNew : Bool) (history planned : ZoneHistory)
    (record : SafetyRecord) (next : PlanState) : Prop where
  held : joined.histories.get? (continuingHistoryId prior selected) = some history
  owned : history.zoneRuntime.session.isSome = true →
    continuingSameActuator prior exact selected zone = true
  plannedEq : planned = history.ownedBy zone.subentryId
    (plannedZoneRuntime env history.zoneRuntime selected zone zone.currentSensorIdentity
      (continuingSameActuator prior exact selected zone)
      (reevaluatesState prior exact selected zone createdNew))
  plannedValid : Holds planned.guards
  recordEq : record = (selected.adopted zone (continuingHistoryId prior selected)
    (zone.appliedShadow snapshot.entrySnapshotFingerprint snapshot.observedGeneration)
    (durableActuatorIdentity zone)).withEvidence planned.zoneRuntime.session
      (env.zoneAssessment zone.subentryId) false
  recordValid : Holds record.guards
  nextEq : next =
    { joined with
      histories := joined.histories.set (continuingHistoryId prior selected) planned
      records := joined.records.set record.safetyRecordId record }

theorem adoptRecord_cases {env : PlanEnv} {snapshot : ImmutableEntrySnapshot}
    {joined next : PlanState} {prior : Option SafetyRecord} {exact : List SafetyRecord}
    {selected : SafetyRecord} {zone : ImmutableZoneSnapshot} {createdNew : Bool}
    (adopting : adoptRecord env snapshot joined prior exact selected zone createdNew = .ok next) :
    (∃ detail history, next = joined.conflict detail ∧
      joined.histories.get? (continuingHistoryId prior selected) = some history ∧
      history.zoneRuntime.session.isSome = true) ∨
    ∃ history planned record, ZoneAdopted env snapshot joined prior exact selected zone createdNew
      history planned record next := by
  simp only [adoptRecord, Except.bind_eq_ok_iff, getKey_eq_ok_iff] at adopting
  obtain ⟨history, held, adopting⟩ := adopting
  split at adopting
  · rename_i unowned
    exact .inl ⟨_, history, (Except.ok.inj adopting).symm, held, unowned.1⟩
  · rename_i owned
    simp only [Except.bind_eq_ok_iff, checkValue_eq_ok_iff, SafetyRecord.evolve_eq_ok_iff,
      reconcileActiveRecord] at adopting
    obtain ⟨_, ⟨-, rfl⟩, _, ⟨-, rfl⟩, planned, ⟨plannedValid, same⟩, _, ⟨-, rfl⟩, _, ⟨-, rfl⟩,
      _, ⟨-, rfl⟩, record, ⟨recordValid, evident⟩, written⟩ := adopting
    refine .inr ⟨history, planned, record, held, ?_, same, same ▸ plannedValid, evident, evident ▸ recordValid,
      (Except.ok.inj written).symm⟩
    intro open'
    simpa [open'] using owned

/-- Going on with a record reports an unresolved session or lets the zone own it. -/
inductive ZoneContinued (env : PlanEnv) (snapshot : ImmutableEntrySnapshot) (base : PlanState)
    (prior : Option SafetyRecord) (exact : List SafetyRecord) (selected : SafetyRecord)
    (zone : ImmutableZoneSnapshot) (createdNew : Bool) : PlanState → Prop where
  | unjoined (detail : String) {retained : ZoneHistory} :
      base.histories.get? selected.zoneHistoryId = some retained →
      retained.zoneRuntime.session.isSome = true →
      ZoneContinued env snapshot base prior exact selected zone createdNew (base.conflict detail)
  | refused (detail : String) {joined : PlanState} {record : SafetyRecord}
      {history : ZoneHistory} : JoinedHistories base prior selected joined record →
      joined.histories.get? (continuingHistoryId prior record) = some history →
      history.zoneRuntime.session.isSome = true →
      ZoneContinued env snapshot base prior exact selected zone createdNew (joined.conflict detail)
  | adopted {joined next : PlanState} {rejoined record : SafetyRecord}
      {history planned : ZoneHistory} :
      JoinedHistories base prior selected joined rejoined →
      ZoneAdopted env snapshot joined prior exact rejoined zone createdNew history planned record
        next →
      ZoneContinued env snapshot base prior exact selected zone createdNew next

theorem continueZone_cases {env : PlanEnv} {snapshot : ImmutableEntrySnapshot}
    {base next : PlanState} {prior : Option SafetyRecord} {exact : List SafetyRecord}
    {selected : SafetyRecord} {zone : ImmutableZoneSnapshot} {createdNew : Bool}
    (continuing : continueZone env snapshot base prior exact selected zone createdNew = .ok next) :
    ZoneContinued env snapshot base prior exact selected zone createdNew next := by
  simp only [continueZone, Except.bind_eq_ok_iff] at continuing
  obtain ⟨outcome, joining, continuing⟩ := continuing
  have joined := joinHistories_cases joining
  cases outcome with
  | conflict detail =>
    obtain rfl := Except.ok.inj continuing
    obtain ⟨retained, held, opened⟩ := joined
    exact .unjoined detail held opened
  | proceed outcome =>
    obtain ⟨state, record⟩ := outcome
    obtain ⟨detail, history, rfl, held, opened⟩ | ⟨history, planned, record, adopted⟩ :=
      adoptRecord_cases continuing
    · exact .refused detail joined held opened
    · exact .adopted joined adopted

end MoistureLoop
