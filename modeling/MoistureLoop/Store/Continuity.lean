import MoistureLoop.Store.Operations

/-! # Continuity of a zone history

`merge_zone_history_continuity` takes the budget and interval evidence of a retained history
into the one that continues; nothing operational crosses.  `Carries sources` says what a
history owes to the histories merged into it: the latest day with at least the runtime of
each source for that day, and the latest interval anchors. -/

namespace MoistureLoop

open Checked (Holds)

/-! ## Merging -/

/-- Runtime of a day that no known contribution represents. -/
def ZoneDailyRuntime.unresolvedRuntime (daily : ZoneDailyRuntime) : Seconds :=
  max daily.conservativeUnattributedRuntimeS (daily.runtimeS - knownRuntime daily.contributions)

/-- `conservative_merge_daily_runtime`. -/
def conservativeMergeDailyRuntime (left right : ZoneDailyRuntime) :
    Except PyError ZoneDailyRuntime :=
  if left.dateLocal ≠ right.dateLocal then .error (.value "daily runtime dates must match")
  else do
    let contributions ← deduplicateAccountingContributions
      (left.contributions ++ right.contributions)
    let unresolved := left.unresolvedRuntime + right.unresolvedRuntime
    checkValue ZoneDailyRuntime.guards
      { dateLocal := left.dateLocal
        runtimeS := knownRuntime contributions + unresolved
        conservativeUnattributedRuntimeS := unresolved
        contributions }

/-- The daily counter after a merge: only the later day is enforceable. -/
def mergeDaily (continuing retained : Option ZoneDailyRuntime) :
    Except PyError (Option ZoneDailyRuntime) :=
  match continuing, retained with
  | none, retained => .ok retained
  | continuing, none => .ok continuing
  | some continuing, some retained =>
    if continuing.dateLocal = retained.dateLocal then
      (conservativeMergeDailyRuntime continuing retained).map some
    else if continuing.dateLocal < retained.dateLocal then .ok (some retained)
    else .ok (some continuing)

/-- The later of two instants that may be unknown. -/
def latest : Option Instant → Option Instant → Option Instant
  | none, right => right
  | left, none => left
  | some left, some right => some (max left right)

/-- `merge_zone_history_continuity`. -/
def mergeZoneHistoryContinuity (continuing retained : ZoneHistory) : Except PyError ZoneHistory :=
  if continuing.zoneHistoryId = retained.zoneHistoryId then
    if continuing ≠ retained then
      .error (.value "one zone_history_id cannot have conflicting payloads")
    else .ok continuing
  else do
    let daily ← mergeDaily continuing.daily retained.daily
    checkValue ZoneHistory.guards
      { continuing with
        lastSessionEndUtc := latest continuing.lastSessionEndUtc retained.lastSessionEndUtc
        lastAutoSessionStartUtc :=
          latest continuing.lastAutoSessionStartUtc retained.lastAutoSessionStartUtc
        daily }

theorem mergeZoneHistoryContinuity_eq_ok {continuing retained merged : ZoneHistory}
    (distinct : continuing.zoneHistoryId ≠ retained.zoneHistoryId)
    (merging : mergeZoneHistoryContinuity continuing retained = .ok merged) :
    ∃ daily, mergeDaily continuing.daily retained.daily = .ok daily ∧
      merged = { continuing with
        lastSessionEndUtc := latest continuing.lastSessionEndUtc retained.lastSessionEndUtc
        lastAutoSessionStartUtc :=
          latest continuing.lastAutoSessionStartUtc retained.lastAutoSessionStartUtc
        daily } := by
  simp only [mergeZoneHistoryContinuity, if_neg distinct, Except.bind_eq_ok_iff,
    checkValue_eq_ok_iff] at merging
  obtain ⟨daily, counted, -, rfl⟩ := merging
  exact ⟨daily, counted, rfl⟩

/-! ## What a history owes to the histories merged into it -/

structure IsLatest (values : List (Option Instant)) (value : Option Instant) : Prop where
  among : value ∈ values
  bound : ∀ instant, some instant ∈ values → ∃ later, value = some later ∧ instant ≤ later

theorem IsLatest.latest {values others : List (Option Instant)} {value other : Option Instant}
    (left : IsLatest values value) (right : IsLatest others other) :
    IsLatest (values ++ others) (MoistureLoop.latest value other) := by
  constructor
  · have among : MoistureLoop.latest value other = value ∨
        MoistureLoop.latest value other = other := by
      cases value with
      | none => exact .inr rfl
      | some instant =>
        cases other with
        | none => exact .inl rfl
        | some later =>
          obtain same | same := max_choice instant later
          · exact .inl (congrArg some same)
          · exact .inr (congrArg some same)
    obtain same | same := among
    · rw [same]
      exact List.mem_append_left _ left.among
    · rw [same]
      exact List.mem_append_right _ right.among
  · intro instant member
    obtain member | member := List.mem_append.mp member
    · obtain ⟨bound, rfl, below⟩ := left.bound instant member
      cases other with
      | none => exact ⟨bound, rfl, below⟩
      | some later => exact ⟨max bound later, rfl, below.trans (le_max_left ..)⟩
    · obtain ⟨bound, rfl, below⟩ := right.bound instant member
      cases value with
      | none => exact ⟨bound, rfl, below⟩
      | some earlier => exact ⟨max earlier bound, rfl, below.trans (le_max_right ..)⟩

/-- A daily counter of the latest day among `days`, with at least the runtime that each of
them has for that day. -/
structure CarriesDays (days : List (Option ZoneDailyRuntime)) (daily : Option ZoneDailyRuntime) :
    Prop where
  among : ∀ day, daily = some day → ∃ source, some source ∈ days ∧
    source.dateLocal = day.dateLocal
  bound : ∀ source, some source ∈ days → ∃ day, daily = some day ∧
    source.dateLocal ≤ day.dateLocal ∧
    (source.dateLocal = day.dateLocal → source.runtimeS ≤ day.runtimeS)

/-- The known part of a day is not more than that of a day with all its contributions. -/
theorem knownRuntime_le {contributions all : List AccountingContribution}
    (nodup : contributions.Nodup) (among : ∀ contribution ∈ contributions, contribution ∈ all)
    (nonnegative : ∀ contribution ∈ all, 0 ≤ contribution.runtimeS) :
    knownRuntime contributions ≤ knownRuntime all := by
  obtain ⟨part, same, sublist⟩ := List.subperm_of_subset nodup among
  have total : knownRuntime part = knownRuntime contributions :=
    (same.map AccountingContribution.runtimeS).sum_eq
  rw [← total]
  refine (sublist.map AccountingContribution.runtimeS).sum_le_sum fun runtime member => ?_
  obtain ⟨contribution, found, rfl⟩ := List.mem_map.mp member
  exact nonnegative contribution found

/-- What the guards of a day say of its counters. -/
theorem counters_of_guards {daily : ZoneDailyRuntime} (valid : Holds daily.guards) :
    0 ≤ daily.conservativeUnattributedRuntimeS ∧ daily.contributions.Nodup ∧
      ∀ contribution ∈ daily.contributions, 0 ≤ contribution.runtimeS := by
  simp only [ZoneDailyRuntime.guards, Checked.holds_append, Checked.holds_cons,
    Checked.holds_flatMap] at valid
  obtain ⟨⟨-, unattributed, -, -, distinct, -⟩, contributions⟩ := valid
  refine ⟨by simpa using unattributed, ?_, fun contribution member => ?_⟩
  · have distinct' : (daily.contributions.map
        AccountingContribution.accountingContributionId).Nodup := by simpa using distinct
    exact distinct'.of_map _
  · have guards := contributions contribution member
    simp only [AccountingContribution.guards, Checked.holds_cons] at guards
    simpa using guards.2.1

/-- A merged day counts at least what each side counted. -/
theorem runtimeS_of_conservativeMergeDailyRuntime {left right merged : ZoneDailyRuntime}
    (validLeft : Holds left.guards) (validRight : Holds right.guards)
    (merging : conservativeMergeDailyRuntime left right = .ok merged) :
    merged.dateLocal = left.dateLocal ∧ merged.dateLocal = right.dateLocal ∧
      left.runtimeS ≤ merged.runtimeS ∧ right.runtimeS ≤ merged.runtimeS := by
  unfold conservativeMergeDailyRuntime at merging
  split at merging
  · cases merging
  · rename_i sameDate
    simp only [Except.bind_eq_ok_iff, checkValue_eq_ok_iff] at merging
    obtain ⟨contributions, deduplicated, -, rfl⟩ := merging
    unfold deduplicateAccountingContributions at deduplicated
    split at deduplicated
    · cases deduplicated
    · obtain rfl := Except.ok.inj deduplicated
      obtain ⟨leftUnattributed, leftNodup, leftNonnegative⟩ := counters_of_guards validLeft
      obtain ⟨rightUnattributed, rightNodup, rightNonnegative⟩ := counters_of_guards validRight
      have nonnegative : ∀ contribution ∈ ((left.contributions ++ right.contributions).dedup
          |>.insertionSort fun left right =>
            left.accountingContributionId ≤ right.accountingContributionId),
          0 ≤ contribution.runtimeS := by
        intro contribution member
        rw [List.mem_insertionSort, List.mem_dedup, List.mem_append] at member
        exact member.elim (leftNonnegative contribution) (rightNonnegative contribution)
      have knownLeft := knownRuntime_le leftNodup
        (fun contribution member => by
          rw [List.mem_insertionSort, List.mem_dedup, List.mem_append]
          exact .inl member) nonnegative
      have knownRight := knownRuntime_le rightNodup
        (fun contribution member => by
          rw [List.mem_insertionSort, List.mem_dedup, List.mem_append]
          exact .inr member) nonnegative
      have unresolvedLeft : left.runtimeS - knownRuntime left.contributions ≤
          left.unresolvedRuntime := le_max_right ..
      have unresolvedRight : right.runtimeS - knownRuntime right.contributions ≤
          right.unresolvedRuntime := le_max_right ..
      have leastLeft : 0 ≤ left.unresolvedRuntime := leftUnattributed.trans (le_max_left ..)
      have leastRight : 0 ≤ right.unresolvedRuntime := rightUnattributed.trans (le_max_left ..)
      refine ⟨rfl, not_not.mp sameDate, ?_, ?_⟩
      · show left.runtimeS ≤ knownRuntime _ + (left.unresolvedRuntime + right.unresolvedRuntime)
        linarith only [knownLeft, unresolvedLeft, leastRight]
      · show right.runtimeS ≤ knownRuntime _ + (left.unresolvedRuntime + right.unresolvedRuntime)
        linarith only [knownRight, unresolvedRight, leastLeft]

/-- `day` counts at least what `source` counts. -/
def ZoneDailyRuntime.CountsIn (source day : ZoneDailyRuntime) : Prop :=
  source.dateLocal ≤ day.dateLocal ∧
    (source.dateLocal = day.dateLocal → source.runtimeS ≤ day.runtimeS)

theorem ZoneDailyRuntime.CountsIn.trans {source middle day : ZoneDailyRuntime}
    (first : source.CountsIn middle) (second : middle.CountsIn day) : source.CountsIn day := by
  refine ⟨first.1.trans second.1, fun same => ?_⟩
  have date : source.dateLocal = middle.dateLocal :=
    le_antisymm first.1 (same ▸ second.1)
  exact (first.2 date).trans (second.2 (date.symm.trans same))

private theorem carriesDays_of_both {days others : List (Option ZoneDailyRuntime)}
    {first second day : ZoneDailyRuntime} (left : CarriesDays days (some first))
    (right : CarriesDays others (some second)) (countsFirst : first.CountsIn day)
    (countsSecond : second.CountsIn day)
    (date : first.dateLocal = day.dateLocal ∨ second.dateLocal = day.dateLocal) :
    CarriesDays (days ++ others) (some day) := by
  constructor
  · intro day' same
    obtain rfl := Option.some.inj same
    obtain date | date := date
    · obtain ⟨source, member, same⟩ := left.among first rfl
      exact ⟨source, List.mem_append_left _ member, same.trans date⟩
    · obtain ⟨source, member, same⟩ := right.among second rfl
      exact ⟨source, List.mem_append_right _ member, same.trans date⟩
  · intro source member
    obtain member | member := List.mem_append.mp member
    · obtain ⟨middle, same, counts⟩ := left.bound source member
      obtain rfl := Option.some.inj same
      have total : source.CountsIn day :=
        (show source.CountsIn first from counts).trans countsFirst
      exact ⟨day, rfl, total⟩
    · obtain ⟨middle, same, counts⟩ := right.bound source member
      obtain rfl := Option.some.inj same
      have total : source.CountsIn day :=
        (show source.CountsIn second from counts).trans countsSecond
      exact ⟨day, rfl, total⟩

theorem CarriesDays.mergeDaily {days others : List (Option ZoneDailyRuntime)}
    {daily other merged : Option ZoneDailyRuntime}
    (validDaily : ∀ day, daily = some day → Holds day.guards)
    (validOther : ∀ day, other = some day → Holds day.guards) (left : CarriesDays days daily)
    (right : CarriesDays others other) (merging : mergeDaily daily other = .ok merged) :
    CarriesDays (days ++ others) merged := by
  cases daily with
  | none =>
    obtain rfl := Except.ok.inj merging
    refine ⟨fun day same => ?_, fun source member => ?_⟩
    · obtain ⟨source, member, date⟩ := right.among day same
      exact ⟨source, List.mem_append_right _ member, date⟩
    · obtain member | member := List.mem_append.mp member
      · obtain ⟨day, same, -⟩ := left.bound source member
        cases same
      · exact right.bound source member
  | some first =>
    cases other with
    | none =>
      obtain rfl := Except.ok.inj merging
      refine ⟨fun day same => ?_, fun source member => ?_⟩
      · obtain ⟨source, member, date⟩ := left.among day same
        exact ⟨source, List.mem_append_left _ member, date⟩
      · obtain member | member := List.mem_append.mp member
        · exact left.bound source member
        · obtain ⟨day, same, -⟩ := right.bound source member
          cases same
    | some second =>
      unfold MoistureLoop.mergeDaily at merging
      simp only at merging
      have own : ∀ {day : ZoneDailyRuntime}, day.CountsIn day := ⟨le_rfl, fun _ => le_rfl⟩
      split at merging
      · cases combined : conservativeMergeDailyRuntime first second with
        | error err => simp [combined, Except.map] at merging
        | ok day =>
          rw [combined] at merging
          obtain rfl := Except.ok.inj merging
          obtain ⟨date, date', more, more'⟩ := runtimeS_of_conservativeMergeDailyRuntime
            (validDaily first rfl) (validOther second rfl) combined
          exact carriesDays_of_both left right ⟨date.ge, fun _ => more⟩ ⟨date'.ge, fun _ => more'⟩
            (.inl date.symm)
      · split at merging
        · rename_i earlier
          obtain rfl := Except.ok.inj merging
          exact carriesDays_of_both left right
            ⟨earlier.le, fun same => absurd same earlier.ne⟩ own (.inr rfl)
        · rename_i differs notEarlier
          obtain rfl := Except.ok.inj merging
          have later : second.dateLocal < first.dateLocal :=
            lt_of_le_of_ne (not_lt.mp notEarlier) (Ne.symm differs)
          exact carriesDays_of_both left right own
            ⟨later.le, fun same => absurd same later.ne⟩ (.inl rfl)

structure ZoneHistory.Carries (history : ZoneHistory) (sources : List ZoneHistory) : Prop where
  sessionEnd :
    IsLatest (sources.map ZoneHistory.lastSessionEndUtc) history.lastSessionEndUtc
  autoStart :
    IsLatest (sources.map ZoneHistory.lastAutoSessionStartUtc) history.lastAutoSessionStartUtc
  daily : CarriesDays (sources.map ZoneHistory.daily) history.daily

theorem ZoneHistory.carries_self (history : ZoneHistory) : history.Carries [history] where
  sessionEnd := ⟨by simp, fun instant member => ⟨instant, by simpa [eq_comm] using member, le_rfl⟩⟩
  autoStart := ⟨by simp, fun instant member => ⟨instant, by simpa [eq_comm] using member, le_rfl⟩⟩
  daily := ⟨fun day same => ⟨day, by simp [same], rfl⟩,
    fun source member => ⟨source, by simpa [eq_comm] using member, le_rfl, fun _ => le_rfl⟩⟩

private theorem daily_valid {history : ZoneHistory} (valid : Holds history.guards) :
    ∀ day, history.daily = some day → Holds day.guards := by
  intro day held
  simp only [ZoneHistory.guards, Checked.holds_append, held] at valid
  simpa using valid.1.2

theorem ZoneHistory.Carries.merge {continuing retained merged : ZoneHistory}
    {sources others : List ZoneHistory} (validContinuing : Holds continuing.guards)
    (validRetained : Holds retained.guards)
    (distinct : continuing.zoneHistoryId ≠ retained.zoneHistoryId)
    (left : continuing.Carries sources) (right : retained.Carries others)
    (merging : mergeZoneHistoryContinuity continuing retained = .ok merged) :
    merged.Carries (sources ++ others) := by
  obtain ⟨daily, counted, rfl⟩ := mergeZoneHistoryContinuity_eq_ok distinct merging
  refine ⟨?_, ?_, ?_⟩
  · rw [List.map_append]
    exact left.sessionEnd.latest right.sessionEnd
  · rw [List.map_append]
    exact left.autoStart.latest right.autoStart
  · rw [List.map_append]
    exact left.daily.mergeDaily (daily_valid validContinuing) (daily_valid validRetained)
      right.daily counted

end MoistureLoop
