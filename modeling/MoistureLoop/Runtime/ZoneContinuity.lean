import MoistureLoop.Runtime.PlannedZones

/-! # The history of a zone across a plan

In a plan without conflicts each zone that had a record keeps its history, with exactly the
evidence of the histories merged into it (`Merged`) and nothing of their operational state
(`planReconciledStore_continues`).  `HistoriesContinue` is the invariant about the histories,
next to `ZonesOwned` about the records. -/

namespace MoistureLoop

open Checked (Holds)

/-! ## What the histories keep -/

structure PlanState.Owns (state : PlanState) (planned : List ImmutableZoneSnapshot) (k : String)
    (zone : ImmutableZoneSnapshot) (record : SafetyRecord) : Prop where
  planned : zone ∈ planned
  found : ∃ key, state.records.get? key = some record
  active : record.activeSubentryId = some zone.subentryId
  refers : record.zoneHistoryId = k

/-- The operational part of a history after a plan: its own, but for a state and faults that
are derived anew from its enabled flag, the fault of the record that owns it and the sensor of
the zone. -/
structure RuntimeKept (env : PlanEnv) (owns : ImmutableZoneSnapshot → SafetyRecord → Prop)
    (runtime after : ZoneRuntime) : Prop where
  enabled : after.enabled = runtime.enabled
  session : after.session = runtime.session
  operational : (after.state = runtime.state ∧ after.zoneFault = runtime.zoneFault ∧
      after.secondaryFault = runtime.secondaryFault) ∨
    ∃ zone record, owns zone record ∧
      after.zoneFault = (env.classification zone).zoneFault ∧ after.secondaryFault = none ∧
      after.state =
        if !runtime.enabled then .disabled
        else if record.actuatorFault.isSome || (env.classification zone).zoneFault.isSome
          then .fault
        else .idle

theorem RuntimeKept.refl {env : PlanEnv}
    {owns : ImmutableZoneSnapshot → SafetyRecord → Prop} {runtime : ZoneRuntime} :
    RuntimeKept env owns runtime runtime :=
  ⟨rfl, rfl, .inl ⟨rfl, rfl, rfl⟩⟩

theorem RuntimeKept.mono {env : PlanEnv}
    {owns owns' : ImmutableZoneSnapshot → SafetyRecord → Prop} {runtime after : ZoneRuntime}
    (kept : RuntimeKept env owns runtime after)
    (more : ∀ zone record, owns zone record → owns' zone record) :
    RuntimeKept env owns' runtime after := by
  refine ⟨kept.enabled, kept.session, kept.operational.imp id ?_⟩
  rintro ⟨zone, record, owned, derived⟩
  exact ⟨zone, record, more zone record owned, derived⟩

theorem RuntimeKept.planned {env : PlanEnv}
    {owns : ImmutableZoneSnapshot → SafetyRecord → Prop} {runtime before : ZoneRuntime}
    {record : SafetyRecord} {zone : ImmutableZoneSnapshot} {sensor : SensorIdentity}
    {sameActuator reevaluated : Bool} (owned : owns zone record)
    (kept : RuntimeKept env owns runtime before)
    (own : before.session.isSome = true → sameActuator = true) :
    RuntimeKept env owns runtime
      (plannedZoneRuntime env before record zone sensor sameActuator reevaluated) := by
  have session : (if sameActuator then before.session else none) = before.session := by
    cases held : before.session with
    | none => simp
    | some session => rw [own (by simp [held]), if_pos rfl]
  cases reevaluated with
  | false => exact ⟨kept.enabled, session.trans kept.session, kept.operational⟩
  | true =>
    refine ⟨kept.enabled, session.trans kept.session, .inr ⟨zone, record, owned, rfl, rfl, ?_⟩⟩
    rw [← kept.enabled]
    rfl

/-- A taken history keeps the operational part of its own. -/
theorem HistoryTaken.runtimeKept {env : PlanEnv}
    {owns : ImmutableZoneSnapshot → SafetyRecord → Prop} {base : PlanState}
    {prior : Option SafetyRecord} {zone : ImmutableZoneSnapshot} {selected record : SafetyRecord}
    {history after : ZoneHistory} {runtime : ZoneRuntime} (owned : owns zone record)
    (kept : RuntimeKept env owns runtime history.zoneRuntime)
    (taken : HistoryTaken env base prior zone selected record history after) :
    RuntimeKept env owns runtime after.zoneRuntime := by
  obtain ⟨joined, same, reevaluated, joining, rfl, own⟩ := taken.taken
  have operational : joined.zoneRuntime = history.zoneRuntime := by
    obtain ⟨-, rfl⟩ | ⟨retained, -, distinct, merging⟩ := joining
    · rfl
    · obtain ⟨_, -, rfl⟩ := mergeZoneHistoryContinuity_eq_ok distinct merging
      rfl
  have keptJoined : RuntimeKept env owns runtime joined.zoneRuntime := operational ▸ kept
  exact keptJoined.planned owned own

/-! ## What is merged into a history -/

/-- The histories in the history that a record had before its zone took it: what was merged
into the one it has in the Store, or the one that is opened with a new record. -/
def Adopted (env : PlanEnv) (snapshot : ImmutableEntrySnapshot) (data : StoreFields)
    (merged : String → ZoneHistory → Prop) (zone : ImmutableZoneSnapshot) (key : String)
    (source : ZoneHistory) : Prop :=
  match data.safetyRecords.get? key with
  | some original => merged original.zoneHistoryId source
  | none => ∃ made, newSafetyRecord env snapshot zone = .ok made ∧
      newZoneHistory env made zone = .ok source

/-- The histories whose evidence is in the history of key `k` once the zones, the last one
first, have their records: the Store's of that key and, for a zone whose own history it is,
those in the history of the record that it takes. -/
def Merged (env : PlanEnv) (snapshot : ImmutableEntrySnapshot) (data : StoreFields)
    (records : Dict String SafetyRecord) :
    List ImmutableZoneSnapshot → String → ZoneHistory → Prop
  | [], k, source => data.zoneHistories.get? k = some source
  | zone :: earlier, k, source =>
    Merged env snapshot data records earlier k source ∨
      ∃ prior key record, data.originalActive zone.subentryId = some prior ∧
        prior.zoneHistoryId = k ∧ records.get? key = some record ∧
        record.activeSubentryId = some zone.subentryId ∧
        Adopted env snapshot data (Merged env snapshot data records earlier) zone key source

theorem merged_congr {env : PlanEnv} {snapshot : ImmutableEntrySnapshot} {data : StoreFields}
    {records records' : Dict String SafetyRecord} {zones : List ImmutableZoneSnapshot}
    (same : ∀ zone ∈ zones, ∀ key record, record.activeSubentryId = some zone.subentryId →
      (records.get? key = some record ↔ records'.get? key = some record)) :
    Merged env snapshot data records zones = Merged env snapshot data records' zones := by
  induction zones with
  | nil => rfl
  | cons zone earlier ih =>
    have before := ih fun other member => same other (List.mem_cons_of_mem zone member)
    funext k source
    simp only [Merged, before]
    refine propext (or_congr_right (exists_congr fun prior => exists_congr fun key =>
      exists_congr fun record => ?_))
    constructor
    · rintro ⟨owned, refers, found, active, merged⟩
      exact ⟨owned, refers, (same zone (by simp) key record active).mp found, active, merged⟩
    · rintro ⟨owned, refers, found, active, merged⟩
      exact ⟨owned, refers, (same zone (by simp) key record active).mpr found, active, merged⟩

def CarriesExactly (history : ZoneHistory) (merged : ZoneHistory → Prop) : Prop :=
  Holds history.guards ∧ ∃ sources, history.Carries sources ∧
    ∀ source, source ∈ sources ↔ merged source

theorem CarriesExactly.congr {history : ZoneHistory} {merged merged' : ZoneHistory → Prop}
    (carries : CarriesExactly history merged)
    (same : ∀ source, merged source ↔ merged' source) : CarriesExactly history merged' := by
  obtain ⟨valid, sources, carried, exactly⟩ := carries
  exact ⟨valid, sources, carried, fun source => (exactly source).trans (same source)⟩

/-- A taken history carries what its own carried and, if another one was merged into it, what
that one carried. -/
theorem HistoryTaken.carries {env : PlanEnv} {base : PlanState} {prior : Option SafetyRecord}
    {zone : ImmutableZoneSnapshot} {selected record : SafetyRecord} {history after : ZoneHistory}
    {own joined : ZoneHistory → Prop} (carriesOwn : CarriesExactly history own)
    (carriesJoined : ∀ retained, base.histories.get? selected.zoneHistoryId = some retained →
      CarriesExactly retained joined)
    (alone : selected.zoneHistoryId = continuingHistoryId prior selected →
      ∀ source, joined source → own source)
    (taken : HistoryTaken env base prior zone selected record history after) :
    CarriesExactly after fun source => own source ∨ joined source := by
  obtain ⟨valid, sources, carries, exactly⟩ := carriesOwn
  obtain ⟨joinedHistory, same, reevaluated, joining, rfl, -⟩ := taken.taken
  obtain ⟨unjoined, rfl⟩ | ⟨retained, held, distinct, merging⟩ := joining
  · refine ⟨taken.valid, sources, ⟨carries.sessionEnd, carries.autoStart, carries.daily⟩,
      fun source => ?_⟩
    exact (exactly source).trans (or_iff_left_of_imp (alone unjoined source)).symm
  · obtain ⟨valid', others, carries', exactly'⟩ := carriesJoined retained held
    have merged := carries.merge valid valid' distinct carries' merging
    refine ⟨taken.valid, sources ++ others,
      ⟨merged.sessionEnd, merged.autoStart, merged.daily⟩, fun source => ?_⟩
    rw [List.mem_append, exactly, exactly']

/-! ## The histories of a plan without conflicts -/

/-- The histories of the Store carry what was merged into them, keep their operational part and
their open sessions, and every record refers to one of the histories. -/
structure HistoriesContinue (env : PlanEnv) (snapshot : ImmutableEntrySnapshot)
    (data : StoreFields) (earlier : List ImmutableZoneSnapshot) (state : PlanState) : Prop where
  carry : ∀ k history after, data.zoneHistories.get? k = some history →
    state.histories.get? k = some after →
    CarriesExactly after (Merged env snapshot data state.records earlier.reverse k)
  runtimes : ∀ k history after, data.zoneHistories.get? k = some history →
    state.histories.get? k = some after →
    RuntimeKept env (state.Owns earlier k) history.zoneRuntime after.zoneRuntime
  sessions : ∀ k history, data.zoneHistories.get? k = some history →
    history.zoneRuntime.session.isSome = true → (state.histories.get? k).isSome = true
  refers : ∀ k record, state.records.get? k = some record →
    (state.histories.get? record.zoneHistoryId).isSome = true

theorem historiesContinue_of_retained {env : PlanEnv} {snapshot : ImmutableEntrySnapshot}
    {data : StoreData} {retained : PlanState}
    (owners : OwnersRetained env snapshot data.toStoreFields retained)
    (histories : HistoriesRetained snapshot data.toStoreFields retained) :
    HistoriesContinue env snapshot data.toStoreFields [] retained := by
  refine ⟨fun k history after held found => ?_, fun k history after held found => ?_,
    fun k history held _ => ?_, fun k record found => ?_⟩
  · obtain ⟨history', held', same⟩ := histories.stored found
    obtain rfl := Option.some.inj (held'.symm.trans held)
    have self := history'.carries_self
    refine ⟨same.valid, [history'], ⟨?_, ?_, ?_⟩, fun source => ?_⟩
    · rw [same.lastSessionEndUtc]
      exact self.sessionEnd
    · rw [same.lastAutoSessionStartUtc]
      exact self.autoStart
    · rw [same.daily]
      exact self.daily
    · simp [Merged, held, eq_comm]
  · obtain ⟨history', held', same⟩ := histories.stored found
    obtain rfl := Option.some.inj (held'.symm.trans held)
    rw [same.zoneRuntime]
    exact .refl
  · obtain ⟨after, found, -⟩ := histories.histories k history held
    simp [found]
  · obtain ⟨original, held, made⟩ := owners.stored found
    obtain ⟨history, present, -⟩ := data.consistent.recordHistory k original held
    obtain ⟨after, found', -⟩ := histories.histories _ history present
    simp [made.frame.2.1, found']

theorem ZoneSelected.stored {env : PlanEnv} {snapshot : ImmutableEntrySnapshot}
    {data : StoreFields} {state base : PlanState} {prior : Option SafetyRecord}
    {zone : ImmutableZoneSnapshot} {selected : SafetyRecord} {createdNew : Bool} {k : String}
    {history : ZoneHistory} (fresh : FreshIds env snapshot data) (member : zone ∈ snapshot.zones)
    (selection : ZoneSelected env snapshot state prior zone base selected createdNew)
    (held : data.zoneHistories.get? k = some history) :
    base.histories.get? k = state.histories.get? k := by
  cases selection with
  | existing => rfl
  | fresh _ _ _ made opening =>
    obtain ⟨-, historyId, -⟩ := newSafetyRecord_frame made
    refine Dict.get?_set_of_ne _ _ ?_
    rintro rfl
    rw [historyId, fresh.histories zone member] at held
    cases held

/-- The history of the record that a zone selects carries what the zone adopts with it, which
is nothing new where the record has the zone's own history already. -/
theorem HistoriesContinue.adopted {env : PlanEnv} {snapshot : ImmutableEntrySnapshot}
    {data : StoreData} {earlier : List ImmutableZoneSnapshot} {state base : PlanState}
    {prior : Option SafetyRecord} {zone : ImmutableZoneSnapshot} {selected : SafetyRecord}
    {createdNew : Bool} (fresh : FreshIds env snapshot data.toStoreFields)
    (member : zone ∈ snapshot.zones) (keyed : state.Keyed)
    (continued : HistoriesContinue env snapshot data.toStoreFields earlier state)
    (zones : ZonesOwned env snapshot data.toStoreFields earlier state)
    (apart : SelectedApart env snapshot earlier state base zone selected)
    (selection : ZoneSelected env snapshot state prior zone base selected createdNew) :
    let merged := Merged env snapshot data.toStoreFields state.records earlier.reverse
    let adopted := Adopted env snapshot data.toStoreFields merged zone selected.safetyRecordId
    (∀ retained, base.histories.get? selected.zoneHistoryId = some retained →
      CarriesExactly retained adopted) ∧
    ∀ history, data.zoneHistories.get? selected.zoneHistoryId = some history →
      ∀ source, adopted source → merged selected.zoneHistoryId source := by
  intro merged adopted
  cases selection with
  | existing _ reason =>
    obtain ⟨other, planned, active⟩ | ⟨original, stored, same⟩ :=
      zones.untaken _ selected (reason.found keyed)
    · exact absurd active (apart.unowned other planned selected (reason.found keyed))
    · have adopts : ∀ source, adopted source ↔ merged selected.zoneHistoryId source := by
        intro source
        simp only [adopted, Adopted, stored, same]
      obtain ⟨history, held, -⟩ := data.consistent.recordHistory _ original stored
      rw [← same] at held
      exact ⟨fun retained found => (continued.carry _ history retained held found).congr
        fun source => (adopts source).symm, fun _ _ source => (adopts source).mp⟩
  | @fresh _ opened _ _ _ made opening =>
    obtain ⟨recordId, historyId, -⟩ := newSafetyRecord_frame made
    have newRecord := fresh.records zone member
    have newHistory := fresh.histories zone member
    rw [← recordId] at newRecord
    rw [← historyId] at newHistory
    have adopts : ∀ source, adopted source ↔ source = opened := by
      intro source
      simp only [adopted, Adopted, newRecord, made, Except.ok.injEq, exists_eq_left', opening,
        eq_comm]
    have valid : Holds opened.guards := by
      simp only [newZoneHistory, Except.bind_eq_ok_iff, checkValue_eq_ok_iff] at opening
      obtain ⟨_, -, valid, rfl⟩ := opening
      exact valid
    refine ⟨fun retained found => ?_, fun history held => ?_⟩
    · obtain rfl := Option.some.inj ((Dict.get?_set_self ..).symm.trans found)
      exact ⟨valid, [opened], opened.carries_self, fun source => by simp [adopts]⟩
    · rw [newHistory] at held
      cases held

theorem merged_taken {env : PlanEnv} {snapshot : ImmutableEntrySnapshot} {data : StoreData}
    {earlier later : List ImmutableZoneSnapshot} {state base next : PlanState}
    {zone : ImmutableZoneSnapshot} {selected record : SafetyRecord} {k : String}
    {source : ZoneHistory} (listed : snapshot.zones = earlier ++ zone :: later)
    (apart : SelectedApart env snapshot earlier state base zone selected)
    (zones : ZonesOwned env snapshot data.toStoreFields (earlier ++ [zone]) next)
    (unplanned : zone ∉ earlier)
    (outcome : TakenOutcome env base next (data.originalActive zone.subentryId) zone selected
      record) :
    let merged := Merged env snapshot data.toStoreFields state.records earlier.reverse
    Merged env snapshot data.toStoreFields next.records (earlier ++ [zone]).reverse k source ↔
      merged k source ∨ ∃ prior, data.originalActive zone.subentryId = some prior ∧
        prior.zoneHistoryId = k ∧
        Adopted env snapshot data.toStoreFields merged zone selected.safetyRecordId source := by
  intro merged
  have own : next.records.get? selected.safetyRecordId = some record := by
    rw [outcome.records, Dict.get?_set_self]
  have same : Merged env snapshot data.toStoreFields next.records earlier.reverse = merged := by
    refine merged_congr fun other planned key found active => ?_
    have planned := List.mem_reverse.mp planned
    by_cases here : key = selected.safetyRecordId
    · subst here
      refine iff_of_false (fun held => ?_) fun held => apart.unowned other planned found held active
      obtain rfl := Option.some.inj (own.symm.trans held)
      have same := @ImmutableEntrySnapshot.zone_unique snapshot zone other (by simp [listed])
        (by simp [listed, planned]) (Option.some.inj (active.symm.trans outcome.subentry))
      exact unplanned (same ▸ planned)
    · rw [outcome.records, Dict.get?_set_of_ne _ _ here, apart.records key here]
  simp only [List.reverse_append, List.reverse_cons, List.reverse_nil, List.nil_append,
    List.singleton_append, Merged, same]
  refine or_congr_right (exists_congr fun prior => ⟨?_, ?_⟩)
  · rintro ⟨key, found, owned, refers, held, active, adopted⟩
    obtain rfl := zones.alone zone (by simp) key _ found record held own active outcome.subentry
    exact ⟨owned, refers, adopted⟩
  · rintro ⟨owned, refers, adopted⟩
    exact ⟨_, record, owned, refers, own, outcome.subentry, adopted⟩

/-- Taking a record keeps what the histories carry. -/
theorem HistoriesContinue.taken {env : PlanEnv} {snapshot : ImmutableEntrySnapshot}
    {data : StoreData} {earlier later : List ImmutableZoneSnapshot} {state base next : PlanState}
    {zone : ImmutableZoneSnapshot} {selected record : SafetyRecord} {createdNew : Bool}
    (fresh : FreshIds env snapshot data.toStoreFields)
    (listed : snapshot.zones = earlier ++ zone :: later) (unplanned : zone ∉ earlier)
    (keyed : state.Keyed) (keyed' : base.Keyed)
    (continued : HistoriesContinue env snapshot data.toStoreFields earlier state)
    (zones : ZonesOwned env snapshot data.toStoreFields earlier state)
    (zones' : ZonesOwned env snapshot data.toStoreFields (earlier ++ [zone]) next)
    (apart : SelectedApart env snapshot earlier state base zone selected)
    (selection : ZoneSelected env snapshot state (data.originalActive zone.subentryId) zone base
      selected createdNew)
    (outcome : TakenOutcome env base next (data.originalActive zone.subentryId) zone selected
      record) :
    HistoriesContinue env snapshot data.toStoreFields (earlier ++ [zone]) next := by
  have member : zone ∈ snapshot.zones := by simp [listed]
  obtain ⟨history, after, taken, own⟩ := outcome.history
  obtain ⟨adoptedCarries, adoptedAlone⟩ :=
    continued.adopted fresh member keyed zones apart selection
  -- The histories that a zone opens are new to the store.
  have before : ∀ {k history other}, data.zoneHistories.get? k = some history →
      base.histories.get? k = some other → state.histories.get? k = some other :=
    fun held found => (selection.stored fresh member held).symm.trans found
  -- Zones planned earlier keep their records.
  have owns : ∀ k other record', state.Owns earlier k other record' →
      next.Owns (earlier ++ [zone]) k other record' := by
    rintro k other record' ⟨planned, ⟨key, found⟩, active, refers⟩
    have differs : key ≠ selected.safetyRecordId := by
      rintro rfl
      exact apart.unowned other planned record' found active
    refine ⟨by simp [planned], ⟨key, ?_⟩, active, refers⟩
    rw [outcome.records, Dict.get?_set_of_ne _ _ differs, apart.records key differs, found]
  refine ⟨fun k original other held found => ?_, fun k original other held found => ?_,
    fun k original held opened => ?_, fun k other found => ?_⟩
  · -- Evidence: the continuing history has its own and what it adopted.
    by_cases here : k = continuingHistoryId (data.originalActive zone.subentryId) selected
    · subst here
      obtain rfl := Option.some.inj (own.symm.trans found)
      have carries := continued.carry _ original history held (before held taken.held)
      have alone : selected.zoneHistoryId =
            continuingHistoryId (data.originalActive zone.subentryId) selected →
          ∀ source, Adopted _ _ _ _ zone selected.safetyRecordId source → Merged _ _ _ _ _ _ source :=
        fun same source adopts => same ▸ adoptedAlone original (same ▸ held) source adopts
      refine (taken.carries carries adoptedCarries alone).congr fun source =>
        .trans ⟨?_, ?_⟩ (merged_taken listed apart zones' unplanned outcome).symm
      · rintro (owes | adopts)
        · exact .inl owes
        · obtain none' | ⟨owner, owned⟩ :=
            Option.eq_none_or_eq_some (data.originalActive zone.subentryId)
          · exact .inl (alone (by rw [none']; rfl) source adopts)
          · exact .inr ⟨owner, owned, by rw [owned]; rfl, adopts⟩
      · rintro (owes | ⟨prior, -, -, adopts⟩)
        · exact .inl owes
        · exact .inr adopts
    · refine (continued.carry k original other held
        (before held (outcome.others k other here found))).congr fun source =>
          ((merged_taken listed apart zones' unplanned outcome).trans (or_iff_left_of_imp ?_)).symm
      rintro ⟨prior, owned, rfl, -⟩
      exact absurd (by rw [owned]; rfl) here
  · -- The operational part follows the zone that owns the history.
    by_cases here : k = continuingHistoryId (data.originalActive zone.subentryId) selected
    · subst here
      obtain rfl := Option.some.inj (own.symm.trans found)
      refine taken.runtimeKept ⟨by simp, ⟨selected.safetyRecordId, ?_⟩, outcome.subentry, outcome.refers⟩
        ((continued.runtimes _ original history held (before held taken.held)).mono (owns _))
      rw [outcome.records, Dict.get?_set_self]
    · exact (continued.runtimes k original other held
        (before held (outcome.others k other here found))).mono (owns k)
  · -- A history with an open session is not erased.
    by_cases here : k = continuingHistoryId (data.originalActive zone.subentryId) selected
    · simp [here, own]
    · obtain ⟨kept, found⟩ := Option.isSome_iff_exists.mp (continued.sessions k original held opened)
      obtain kept' | ⟨-, closed, -⟩ := outcome.erased k kept here (apart.histories k kept found)
      · simp [kept']
      · rw [← (continued.runtimes k original kept held found).session, closed] at opened
        cases opened
  · rw [outcome.records, Dict.get?_set] at found
    split at found
    · obtain rfl := Option.some.inj found
      simp [outcome.refers, own]
    · rename_i differs
      by_cases here : other.zoneHistoryId =
          continuingHistoryId (data.originalActive zone.subentryId) selected
      · simp [here, own]
      · obtain ⟨kept, held⟩ := Option.isSome_iff_exists.mp
          (continued.refers k other ((apart.records k differs).symm.trans found))
        obtain kept' | ⟨-, -, unreferenced⟩ :=
          outcome.erased _ kept here (apart.histories _ kept held)
        · simp [kept']
        · have referenced : base.referencedElsewhere selected.safetyRecordId other.zoneHistoryId =
              true := by
            refine List.any_eq_true.mpr ⟨other, Dict.mem_values_iff_get?.mpr ⟨k, found⟩, ?_⟩
            have id := keyed'.records k other found
            simp [id, differs]
          rw [referenced] at unreferenced
          cases unreferenced

/-! ## A plan without conflicts -/

/-- What holds between the zones of a plan without conflicts. -/
structure PlanCalm (env : PlanEnv) (snapshot : ImmutableEntrySnapshot) (data : StoreFields)
    (earlier : List ImmutableZoneSnapshot) (state : PlanState) : Prop where
  undoubled : duplicateIdentityConflicts snapshot.zones = []
  distinct : (snapshot.zones.map ImmutableZoneSnapshot.identityKey).Nodup
  kept : CurrentKept snapshot data state
  continued : HistoriesContinue env snapshot data earlier state
  zones : ZonesOwned env snapshot data earlier state

/-- One turn of a plan without conflicts: the zone takes a record. -/
structure ZonePlanned (env : PlanEnv) (snapshot : ImmutableEntrySnapshot) (data : StoreFields)
    (earlier later : List ImmutableZoneSnapshot) (zone : ImmutableZoneSnapshot)
    (state base next : PlanState) (selected record : SafetyRecord) (createdNew : Bool) :
    Prop where
  listed : snapshot.zones = earlier ++ zone :: later
  keyed : state.Keyed
  calm : PlanCalm env snapshot data earlier state
  selection : ZoneSelected env snapshot state (data.originalActive zone.subentryId) zone base
    selected createdNew
  takes : ZoneTakes env snapshot base (data.originalActive zone.subentryId)
    (state.exactRecords zone) zone createdNew selected record next
  apart : SelectedApart env snapshot earlier state base zone selected
  outcome : TakenOutcome env base next (data.originalActive zone.subentryId) zone selected record
  unambiguous : zone.identityConflictDetail = none ∧ (state.exactRecords zone).length ≤ 1 ∧
    state.textualConflicts zone = []

/-- What holds once the owners are retained, and is kept by every zone that takes a record,
holds of a plan without conflicts. -/
theorem planReconciledStore_calm {env : PlanEnv} {snapshot : ImmutableEntrySnapshot}
    {data : StoreData} {plan : PlanState} (fresh : FreshIds env snapshot data.toStoreFields)
    (planned : planReconciledStore env snapshot data.toStoreFields = .ok plan)
    (calm : plan.conflicts = []) {property : List ImmutableZoneSnapshot → PlanState → Prop}
    (initial : ∀ retained, OwnersRetained env snapshot data.toStoreFields retained →
      HistoriesRetained snapshot data.toStoreFields retained →
      PlanReaches env snapshot data.toStoreFields [] retained → property [] retained)
    (step : ∀ {earlier later zone state base next selected record createdNew},
      ZonePlanned env snapshot data.toStoreFields earlier later zone state base next selected
        record createdNew →
      property earlier state → property (earlier ++ [zone]) next) :
    PlanCalm env snapshot data.toStoreFields snapshot.zones plan ∧ property snapshot.zones plan := by
  let invariant : List ImmutableZoneSnapshot → PlanState → Prop := fun earlier state =>
    state.conflicts = [] →
      PlanCalm env snapshot data.toStoreFields earlier state ∧ property earlier state
  have holds : invariant snapshot.zones plan := by
    refine planReconciledStore_rule planned (fun retained owners histories reached none' => ?_) ?_
    · have undoubled := histories.conflicts.symm.trans none'
      exact ⟨⟨undoubled, identityKeys_nodup undoubled, currentKept_of_ownersRetained owners,
        historiesContinue_of_retained owners histories,
        zonesOwned_of_retained fresh owners histories⟩, initial retained owners histories reached⟩
    · intro earlier zone later state next listed reached keyed holds stepped none'
      have member : zone ∈ snapshot.zones := by simp [listed]
      obtain ⟨before, base, selected, createdNew, record, selection, takes⟩ :=
        planZone_takes keyed stepped none'
      have unambiguous := planZone_unambiguous keyed stepped none'
      obtain ⟨calm', holds⟩ := holds before
      have unplanned := not_mem_earlier calm'.distinct listed
      obtain ⟨keyed', -⟩ := selection.base keyed
      have outcome := takes.outcome keyed'
      have apart := calm'.zones.apart fresh listed keyed calm'.distinct calm'.kept selection
      obtain ⟨-, identity, -⟩ := takes.frame keyed'
      have zones' := calm'.zones.taken listed calm'.distinct apart identity outcome
      exact ⟨⟨calm'.undoubled, calm'.distinct, calm'.kept.planZone fresh member keyed stepped,
          calm'.continued.taken fresh listed unplanned keyed keyed' calm'.zones zones' apart
            selection outcome, zones'⟩,
        step ⟨listed, keyed, calm', selection, takes, apart, outcome, unambiguous⟩ holds⟩
  exact holds calm

theorem active_of_owned {record : SafetyRecord} {subentryId : String}
    (valid : Holds record.guards) (owned : record.activeSubentryId = some subentryId) :
    record.runtimeLifecycle = .active := by
  have guard := valid (decide (record.runtimeLifecycle ≠ .active) &&
    record.activeSubentryId.isSome, "non-ACTIVE record cannot own a current subentry")
    (by simp [SafetyRecord.guards])
  simpa [owned] using guard

/-- In a plan that the Store accepts a zone is the only one to own its history. -/
theorem PlanState.Owns.zone_eq {env : PlanEnv} {snapshot : ImmutableEntrySnapshot}
    {data next : StoreData} {plan : PlanState} {zone other : ImmutableZoneSnapshot} {k : String}
    {record record' : SafetyRecord}
    (planned : planReconciledStore env snapshot data.toStoreFields = .ok plan)
    (accepted : reconcile data (planMutator env snapshot) = .ok next)
    (owns : plan.Owns snapshot.zones k zone record)
    (owns' : plan.Owns snapshot.zones k other record') : other = zone := by
  have same := reconcile_eq_ok accepted
  simp only [planMutator, planned, Except.map, Except.ok.injEq, Prod.mk.injEq] at same
  have active : ∀ zone record, plan.Owns snapshot.zones k zone record →
      ∃ history, next.zoneHistories.get? k = some history ∧
        history.activeSubentryId = some zone.subentryId := by
    rintro zone record ⟨-, ⟨key, found⟩, active, refers⟩
    rw [same.1] at found
    obtain ⟨history, held, owner⟩ := next.consistent.recordHistory key record found
    have valid := next.consistent.records key record found
    exact ⟨history, refers ▸ held, (owner (active_of_owned valid active)).trans active⟩
  obtain ⟨history, held, owner⟩ := active zone record owns
  obtain ⟨history', held', owner'⟩ := active other record' owns'
  obtain rfl := Option.some.inj (held.symm.trans held')
  have planned' : ∀ {zone record}, plan.Owns snapshot.zones k zone record →
      zone ∈ snapshot.zones := fun owns => owns.planned
  exact ImmutableEntrySnapshot.zone_unique (planned' owns) (planned' owns')
    (Option.some.inj (owner'.symm.trans owner))

end MoistureLoop
