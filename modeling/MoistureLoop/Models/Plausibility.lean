import MoistureLoop.Foundations.Binary64
import MoistureLoop.Models.Session

/-! # Reading plausibility

`assess_reading_plausibility` folds the observations of a zone into a reference and an
optional suspicion.  The law of this module is about where a late report may be inserted in
the fold: exactly where the state kept so far ignores it (`insertion_unchanged_iff`). -/

namespace MoistureLoop

/-- `IMPLAUSIBLE_MAX_GAP_S`. -/
def implausibleMaxGapS : Seconds := 15 * 60

/-- `IMPLAUSIBLE_MIN_DROP`. -/
def implausibleMinDrop : Moisture := 8

/-- `IMPLAUSIBLE_MAX_RATIO`. -/
def implausibleMaxRatio : ℚ := Binary64.round (65 / 100)

/-- A reference and an optional suspicion.  The reference is frozen while suspect. -/
structure ReadingPlausibility where
  referenceValue : Option Moisture := none
  referenceReportedAtUtc : Option Instant := none
  suspectSinceUtc : Option Instant := none
  deriving DecidableEq, Repr

/-- `_implausible_drop`, on binary64 numbers: the difference and the product are rounded. -/
def implausibleDrop (reference value : Moisture) : Bool :=
  decide (implausibleMinDrop ≤ Binary64.round (reference - value) ∧
    value ≤ Binary64.round (implausibleMaxRatio * reference))

namespace ReadingPlausibility

/-- `suspect`. -/
def suspect (state : ReadingPlausibility) : Bool := state.suspectSinceUtc.isSome

def newer (state : ReadingPlausibility) (reference : Moisture) (referenceAt : Instant)
    (value : Moisture) (reportedAt : Instant) : ReadingPlausibility :=
  if state.suspect then
    if implausibleDrop reference value then state else ⟨some value, some reportedAt, none⟩
  else if reportedAt - referenceAt ≤ implausibleMaxGapS ∧ implausibleDrop reference value then
    ⟨some reference, some referenceAt, some reportedAt⟩
  else ⟨some value, some reportedAt, none⟩

end ReadingPlausibility

/-- `assess_reading_plausibility`; `none` is its assertion that a VALID observation has a value
and a report time. -/
def assessReadingPlausibility (state : ReadingPlausibility) (observation : MoistureObservation) :
    Option ReadingPlausibility :=
  if observation.classification ≠ .valid then some state
  else match observation.value, observation.reportedAtUtc with
    | some value, some reportedAt =>
      match state.referenceValue, state.referenceReportedAtUtc with
      | some reference, some referenceAt =>
        if reportedAt ≤ referenceAt then some state
        else some (state.newer reference referenceAt value reportedAt)
      | _, _ => some ⟨some value, some reportedAt, none⟩
    | _, _ => none

/-- The state once a sequence of observations has been folded. -/
def foldPlausibility (observations : List MoistureObservation) : Option ReadingPlausibility :=
  observations.foldlM assessReadingPlausibility {}

/-- A VALID observation, as `validate` requires it. -/
def validReport (value : Moisture) (reportedAt : Instant) : MoistureObservation :=
  ⟨some value, .valid, some reportedAt⟩

namespace ReadingPlausibility

variable {state next : ReadingPlausibility} {observation processed : MoistureObservation}
  {value reference : Moisture} {reportedAt referenceAt : Instant}

/-- The state keeps an observation out: it is not VALID, not newer than the reference, or one
more implausible drop from a reference that is frozen. -/
def Ignores (state : ReadingPlausibility) (observation : MoistureObservation) : Prop :=
  observation.classification ≠ .valid ∨
    ∃ value reportedAt reference referenceAt, observation = validReport value reportedAt ∧
      state.referenceValue = some reference ∧ state.referenceReportedAtUtc = some referenceAt ∧
      (reportedAt ≤ referenceAt ∨ state.suspect = true ∧ implausibleDrop reference value = true)

/-- Value and report time of the reference come together. -/
def HasReference (state : ReadingPlausibility) (reference : Moisture) (referenceAt : Instant) :
    Prop :=
  state.referenceValue = some reference ∧ state.referenceReportedAtUtc = some referenceAt

theorem assess_of_not_valid (other : observation.classification ≠ .valid) :
    assessReadingPlausibility state observation = some state := if_pos other

theorem assess_validReport (referred : state.HasReference reference referenceAt) :
    assessReadingPlausibility state (validReport value reportedAt) =
      if reportedAt ≤ referenceAt then some state
      else some (state.newer reference referenceAt value reportedAt) := by
  obtain ⟨held, heldAt⟩ := referred
  simp [assessReadingPlausibility, validReport, held, heldAt]

theorem assess_of_ignores (ignores : state.Ignores observation) :
    assessReadingPlausibility state observation = some state := by
  obtain other | ⟨value, reportedAt, reference, referenceAt, rfl, held, heldAt, kept⟩ := ignores
  · exact assess_of_not_valid other
  · rw [assess_validReport ⟨held, heldAt⟩]
    obtain old | ⟨suspect, drop⟩ := kept
    · rw [if_pos old]
    · simp [newer, suspect, drop]

/-- A newer report that the state does not ignore changes it: the reference gets the report's
time, or a suspicion begins. -/
theorem newer_ne_self (referred : state.HasReference reference referenceAt)
    (late : referenceAt < reportedAt)
    (taken : ¬ (state.suspect = true ∧ implausibleDrop reference value = true)) :
    state.newer reference referenceAt value reportedAt ≠ state := by
  obtain ⟨-, heldAt⟩ := referred
  have moved : (⟨some value, some reportedAt, none⟩ : ReadingPlausibility) ≠ state := by
    intro same
    have times := congrArg referenceReportedAtUtc same
    rw [heldAt] at times
    exact late.ne' (Option.some.inj times)
  unfold newer
  split
  · rename_i suspect
    split
    · rename_i drop
      exact absurd ⟨suspect, drop⟩ taken
    · exact moved
  · rename_i calm
    split
    · intro same
      apply calm
      rw [← same]
      rfl
    · exact moved

/-- A state with a reference ignores exactly the observations that leave it as it is. -/
theorem ignores_iff (referred : state.HasReference reference referenceAt)
    (formed : observation.classification ≠ .valid ∨
      ∃ value reportedAt, observation = validReport value reportedAt) :
    state.Ignores observation ↔ assessReadingPlausibility state observation = some state := by
  refine ⟨assess_of_ignores, fun unchanged => ?_⟩
  obtain other | ⟨value, reportedAt, rfl⟩ := formed
  · exact .inl other
  · refine .inr ⟨value, reportedAt, reference, referenceAt, rfl, referred.1, referred.2, ?_⟩
    by_contra taken
    obtain ⟨late, taken⟩ := not_or.mp taken
    rw [assess_validReport referred, if_neg late] at unchanged
    exact newer_ne_self referred (not_le.mp late) taken (Option.some.inj unchanged)

theorem hasReference_of_assess {value : Moisture} {reportedAt : Instant}
    (assessed : assessReadingPlausibility state (validReport value reportedAt) = some next) :
    ∃ reference referenceAt, next.HasReference reference referenceAt := by
  simp only [assessReadingPlausibility, validReport, ne_eq, not_true, if_false] at assessed
  split at assessed
  · rename_i reference referenceAt held heldAt
    split at assessed
    · obtain rfl := Option.some.inj assessed
      exact ⟨reference, referenceAt, held, heldAt⟩
    · obtain rfl := Option.some.inj assessed
      unfold newer
      split
      · split
        · exact ⟨reference, referenceAt, held, heldAt⟩
        · exact ⟨value, reportedAt, rfl, rfl⟩
      · split
        · exact ⟨reference, referenceAt, rfl, rfl⟩
        · exact ⟨value, reportedAt, rfl, rfl⟩
  · obtain rfl := Option.some.inj assessed
    exact ⟨value, reportedAt, rfl, rfl⟩

/-- What an assertion lets through. -/
theorem formed_of_assess (assessed : assessReadingPlausibility state observation = some next) :
    observation.classification ≠ .valid ∨
      ∃ value reportedAt, observation = validReport value reportedAt := by
  by_cases valid : observation.classification = .valid
  · obtain ⟨value?, classification, reportedAt?⟩ := observation
    obtain rfl : classification = .valid := valid
    cases value? with
    | none => simp [assessReadingPlausibility] at assessed
    | some value =>
      cases reportedAt? with
      | none => simp [assessReadingPlausibility] at assessed
      | some reportedAt => exact .inr ⟨value, reportedAt, rfl⟩
  · exact .inl valid

/-- A reference stays one. -/
theorem hasReference_step (referred : ∃ reference referenceAt,
      state.HasReference reference referenceAt)
    (assessed : assessReadingPlausibility state observation = some next) :
    ∃ reference referenceAt, next.HasReference reference referenceAt := by
  obtain other | ⟨value, reportedAt, rfl⟩ := formed_of_assess assessed
  · rw [assess_of_not_valid other] at assessed
    obtain rfl := Option.some.inj assessed
    exact referred
  · exact hasReference_of_assess assessed

end ReadingPlausibility

open ReadingPlausibility

variable {earlier later : List MoistureObservation} {state : ReadingPlausibility}
  {observation processed : MoistureObservation}

theorem foldPlausibility_append (folded : foldPlausibility earlier = some state) :
    foldPlausibility (earlier ++ later) = later.foldlM assessReadingPlausibility state := by
  unfold foldPlausibility at folded ⊢
  rw [List.foldlM_append, folded]
  rfl

theorem hasReference_of_folded (folded : foldPlausibility earlier = some state)
    (member : processed ∈ earlier) (valid : processed.classification = .valid) :
    ∃ reference referenceAt, state.HasReference reference referenceAt := by
  induction earlier using List.reverseRecOn generalizing state with
  | nil => cases member
  | append_singleton earlier last ih =>
    have split : ∃ before, foldPlausibility earlier = some before ∧
        assessReadingPlausibility before last = some state := by
      unfold foldPlausibility at folded ⊢
      rw [List.foldlM_append] at folded
      obtain ⟨before, first, rest⟩ := Option.bind_eq_some_iff.mp folded
      exact ⟨before, first, by simpa using rest⟩
    obtain ⟨before, first, assessed⟩ := split
    obtain member | rfl : processed ∈ earlier ∨ processed = last := by simpa using member
    · exact hasReference_step (ih first member) assessed
    · obtain other | ⟨value, reportedAt, rfl⟩ := formed_of_assess assessed
      · exact absurd valid other
      · exact hasReference_of_assess assessed

/-- An observation is late when it is not VALID or when a VALID report as new as it has been
folded. -/
def LateFor (earlier : List MoistureObservation) (observation : MoistureObservation) : Prop :=
  ∃ processed ∈ earlier, ∃ value reportedAt, processed = validReport value reportedAt ∧
    (observation.classification ≠ .valid ∨
      ∃ value' reportedAt', observation = validReport value' reportedAt' ∧
        reportedAt' ≤ reportedAt)

/-- A late observation leaves the rest of the fold unchanged exactly when the state that it
meets ignores it. -/
theorem insertion_unchanged_iff (folded : foldPlausibility earlier = some state)
    (late : LateFor earlier observation) :
    (∀ later, foldPlausibility (earlier ++ observation :: later) =
      foldPlausibility (earlier ++ later)) ↔ state.Ignores observation := by
  obtain ⟨processed, member, value, reportedAt, rfl, formed⟩ := late
  obtain ⟨reference, referenceAt, referred⟩ := hasReference_of_folded folded member rfl
  have formed' : observation.classification ≠ .valid ∨
      ∃ value reportedAt, observation = validReport value reportedAt :=
    formed.imp id fun ⟨value', reportedAt', same, _⟩ => ⟨value', reportedAt', same⟩
  rw [ignores_iff referred formed']
  constructor
  · intro unchanged
    have here := unchanged []
    rw [foldPlausibility_append folded, foldPlausibility_append folded] at here
    simpa using here
  · intro unchanged later
    rw [foldPlausibility_append folded, foldPlausibility_append folded, List.foldlM_cons,
      unchanged]
    rfl

theorem insertion_unchanged_iff_suspect :
    (∀ later, foldPlausibility ([validReport 24 0, validReport 0 60] ++ validReport 0 60 :: later) =
      foldPlausibility ([validReport 24 0, validReport 0 60] ++ later)) ↔
    (ReadingPlausibility.mk (some 24) (some 0) (some 60)).Ignores (validReport 0 60) :=
  insertion_unchanged_iff (by decide +kernel)
    ⟨validReport 0 60, by simp, 0, 60, rfl, .inr ⟨0, 60, rfl, le_rfl⟩⟩

/-- A delayed report clears the suspicion of a newer one, and the replay of that one raises it
again. -/
theorem not_insertion_unchanged_replayed :
    ¬ ∀ earlier observation later, LateFor earlier observation →
      foldPlausibility (earlier ++ observation :: later) =
        foldPlausibility (earlier ++ later) := by
  intro immune
  have replayed := immune [validReport 50 0, validReport 10 100, validReport 48 50]
    (validReport 10 100) [] ⟨validReport 10 100, by simp, 10, 100, rfl, .inr ⟨10, 100, rfl, le_rfl⟩⟩
  revert replayed
  decide +kernel

/-! ## Reports in order -/

/-- Every VALID report is at least as new as those before it. -/
def ReportsInOrder (observations : List MoistureObservation) : Prop :=
  observations.Pairwise fun first second =>
    ∀ value reportedAt value' reportedAt', first = validReport value reportedAt →
      second = validReport value' reportedAt' → reportedAt ≤ reportedAt'

/-- A report that was ignored is ignored once a report that is as new has been folded. -/
theorem ReadingPlausibility.Ignores.step {next : ReadingPlausibility} {value : Moisture}
    {reportedAt : Instant} (ignores : state.Ignores processed)
    (assessed : assessReadingPlausibility state (validReport value reportedAt) = some next)
    (ordered : ∀ value' reportedAt', processed = validReport value' reportedAt' →
      reportedAt' ≤ reportedAt) : next.Ignores processed := by
  obtain other | ⟨value', reportedAt', reference, referenceAt, rfl, held, heldAt, kept⟩ := ignores
  · exact .inl other
  · have older := ordered value' reportedAt' rfl
    rw [assess_validReport ⟨held, heldAt⟩] at assessed
    split at assessed
    · obtain rfl := Option.some.inj assessed
      exact .inr ⟨value', reportedAt', reference, referenceAt, rfl, held, heldAt, kept⟩
    · obtain rfl := Option.some.inj assessed
      have taken : (⟨some value, some reportedAt, none⟩ : ReadingPlausibility).Ignores
          (validReport value' reportedAt') :=
        .inr ⟨value', reportedAt', value, reportedAt, rfl, rfl, rfl, .inl older⟩
      unfold newer
      split
      · split
        · exact .inr ⟨value', reportedAt', reference, referenceAt, rfl, held, heldAt, kept⟩
        · exact taken
      · rename_i calm
        split
        · exact .inr ⟨value', reportedAt', reference, referenceAt, rfl, rfl, rfl,
            .inl (kept.resolve_right fun suspect => calm suspect.1)⟩
        · exact taken

theorem ReadingPlausibility.ignores_of_assess {next : ReadingPlausibility} {value : Moisture}
    {reportedAt : Instant}
    (assessed : assessReadingPlausibility state (validReport value reportedAt) = some next) :
    next.Ignores (validReport value reportedAt) := by
  have taken : (⟨some value, some reportedAt, none⟩ : ReadingPlausibility).Ignores
      (validReport value reportedAt) :=
    .inr ⟨value, reportedAt, value, reportedAt, rfl, rfl, rfl, .inl le_rfl⟩
  simp only [assessReadingPlausibility, validReport, ne_eq, not_true, if_false] at assessed
  split at assessed
  · rename_i reference referenceAt held heldAt
    split at assessed
    · rename_i old
      obtain rfl := Option.some.inj assessed
      exact .inr ⟨value, reportedAt, reference, referenceAt, rfl, held, heldAt, .inl old⟩
    · obtain rfl := Option.some.inj assessed
      unfold newer
      split
      · rename_i suspect
        split
        · rename_i drop
          exact .inr ⟨value, reportedAt, reference, referenceAt, rfl, held, heldAt,
            .inr ⟨suspect, drop⟩⟩
        · exact taken
      · split
        · rename_i drop
          exact .inr ⟨value, reportedAt, reference, referenceAt, rfl, rfl, rfl,
            .inr ⟨rfl, drop.2⟩⟩
        · exact taken
  · obtain rfl := Option.some.inj assessed
    exact taken

/-- Where reports come in order, every report that has been folded may be replayed. -/
theorem ignores_of_inOrder (ordered : ReportsInOrder earlier)
    (folded : foldPlausibility earlier = some state) :
    ∀ processed ∈ earlier, state.Ignores processed := by
  induction earlier using List.reverseRecOn generalizing state with
  | nil => simp
  | append_singleton earlier last ih =>
    unfold foldPlausibility at folded
    rw [List.foldlM_append] at folded
    obtain ⟨before, first, rest⟩ := Option.bind_eq_some_iff.mp folded
    have assessed : assessReadingPlausibility before last = some state := by simpa using rest
    obtain ⟨inOrder, -, newest⟩ := List.pairwise_append.mp ordered
    have ignored := ih inOrder first
    intro processed member
    obtain inside | rfl : processed ∈ earlier ∨ processed = last := by simpa using member
    · obtain other | ⟨value, reportedAt, rfl⟩ := formed_of_assess assessed
      · rw [assess_of_not_valid other] at assessed
        obtain rfl := Option.some.inj assessed
        exact ignored processed inside
      · exact (ignored processed inside).step assessed fun value' reportedAt' same =>
          newest processed inside _ (by simp) value' reportedAt' value reportedAt same rfl
    · obtain other | ⟨value, reportedAt, rfl⟩ := formed_of_assess assessed
      · exact .inl other
      · exact ignores_of_assess assessed

end MoistureLoop
