import MoistureLoop.Foundations.SortedSet
import MoistureLoop.Store.Continuity

/-! # The algebra of merged days

Two counters of one day are merged by the union of their contributions and the sum of what no
contribution accounts for.  Both operations commute and associate, and so does the merge
(`conservativeMergeDailyRuntime_algebra`). -/

namespace MoistureLoop

open Checked (Holds)

/-! ## Contributions -/

/-- No ID is used for two payloads. -/
abbrev AgreeOnIds (contributions : List AccountingContribution) : Prop :=
  KeyedBy AccountingContribution.accountingContributionId contributions

theorem reusesContributionId_eq_false_iff {contributions : List AccountingContribution} :
    reusesContributionId contributions = false ↔ AgreeOnIds contributions := by
  simp [reusesContributionId, KeyedBy]

def contributionSet (contributions : List AccountingContribution) : List AccountingContribution :=
  sortedSet AccountingContribution.accountingContributionId contributions

theorem deduplicateAccountingContributions_eq {contributions : List AccountingContribution}
    (agree : AgreeOnIds contributions) :
    deduplicateAccountingContributions contributions = .ok (contributionSet contributions) := by
  rw [deduplicateAccountingContributions, reusesContributionId_eq_false_iff.mpr agree]
  rfl

theorem knownRuntime_contributionSet {contributions distinct : List AccountingContribution}
    (nodup : distinct.Nodup)
    (same : ∀ contribution, contribution ∈ contributions ↔ contribution ∈ distinct) :
    knownRuntime (contributionSet contributions) = knownRuntime distinct := by
  have perm : (contributionSet contributions).Perm distinct :=
    (List.perm_ext_iff_of_nodup nodup_sortedSet nodup).mpr fun contribution => by
      rw [← same]
      exact mem_sortedSet
  exact (perm.map AccountingContribution.runtimeS).sum_eq

theorem knownRuntime_append {left right : List AccountingContribution} :
    knownRuntime (left ++ right) = knownRuntime left + knownRuntime right := by
  simp [knownRuntime]

/-! ## Days -/

namespace ZoneDailyRuntime

variable {left right third merged : ZoneDailyRuntime}

/-- Both counters are of one day and use the same IDs for the same contributions. -/
structure Agrees (left right : ZoneDailyRuntime) : Prop where
  date : left.dateLocal = right.dateLocal
  ids : ∀ contribution ∈ left.contributions, ∀ other ∈ right.contributions,
    contribution.accountingContributionId = other.accountingContributionId →
    contribution = other

def WithinTotal (daily : ZoneDailyRuntime) : Prop :=
  knownRuntime daily.contributions + daily.conservativeUnattributedRuntimeS ≤ daily.runtimeS

/-- What two counters of one day amount to. -/
def union (left right : ZoneDailyRuntime) : ZoneDailyRuntime where
  dateLocal := left.dateLocal
  runtimeS := knownRuntime (contributionSet (left.contributions ++ right.contributions)) +
    (left.unresolvedRuntime + right.unresolvedRuntime)
  conservativeUnattributedRuntimeS := left.unresolvedRuntime + right.unresolvedRuntime
  contributions := contributionSet (left.contributions ++ right.contributions)

/-- What the guards say, in the words of this module. -/
structure Counts (daily : ZoneDailyRuntime) : Prop where
  unattributed : 0 ≤ daily.conservativeUnattributedRuntimeS
  agree : AgreeOnIds daily.contributions
  nodup : daily.contributions.Nodup
  nonnegative : ∀ contribution ∈ daily.contributions, 0 ≤ contribution.runtimeS
  dates : ∀ contribution ∈ daily.contributions, ∀ date, contribution.localDate = some date →
    date = daily.dateLocal
  formed : ∀ contribution ∈ daily.contributions, Holds contribution.guards

theorem counts_of_guards (valid : Holds left.guards) : left.Counts := by
  obtain ⟨unattributed, nodup, nonnegative⟩ := counters_of_guards valid
  simp only [guards, Checked.holds_append, Checked.holds_cons, Checked.holds_flatMap] at valid
  obtain ⟨⟨-, -, -, agree, -, -, dates, -⟩, formed⟩ := valid
  refine ⟨unattributed, reusesContributionId_eq_false_iff.mp agree, nodup, nonnegative, ?_, formed⟩
  intro contribution member date dated
  have same := List.any_eq_false.mp dates contribution member
  simpa [dated] using same

theorem Counts.unresolved_nonneg (counts : left.Counts) : 0 ≤ left.unresolvedRuntime :=
  counts.unattributed.trans (le_max_left ..)

theorem Counts.agree_append (counts : left.Counts) (counts' : right.Counts)
    (agrees : left.Agrees right) : AgreeOnIds (left.contributions ++ right.contributions) := by
  intro contribution member other member' same
  obtain here | here := List.mem_append.mp member <;>
    obtain there | there := List.mem_append.mp member'
  · exact counts.agree _ here _ there same
  · exact agrees.ids _ here _ there same
  · exact (agrees.ids _ there _ here same.symm).symm
  · exact counts'.agree _ here _ there same

theorem mem_union {contribution : AccountingContribution} :
    contribution ∈ (left.union right).contributions ↔
      contribution ∈ left.contributions ∨ contribution ∈ right.contributions := by
  rw [union, contributionSet, mem_sortedSet, List.mem_append]

theorem Counts.union_guards (counts : left.Counts) (counts' : right.Counts)
    (agrees : left.Agrees right) : Holds (left.union right).guards := by
  have agree := counts.agree_append counts' agrees
  have among : ∀ contribution ∈ (left.union right).contributions,
      contribution ∈ left.contributions ++ right.contributions := fun contribution member =>
    List.mem_append.mpr (mem_union.mp member)
  have nonnegative : ∀ contribution ∈ (left.union right).contributions,
      0 ≤ contribution.runtimeS := fun contribution member =>
    (mem_union.mp member).elim (counts.nonnegative _) (counts'.nonnegative _)
  have known : 0 ≤ knownRuntime (left.union right).contributions := by
    refine List.sum_nonneg fun runtime member => ?_
    obtain ⟨contribution, inside, rfl⟩ := List.mem_map.mp member
    exact nonnegative contribution inside
  have unresolved : 0 ≤ (left.union right).conservativeUnattributedRuntimeS :=
    add_nonneg counts.unresolved_nonneg counts'.unresolved_nonneg
  have total : (left.union right).runtimeS = knownRuntime (left.union right).contributions +
      (left.union right).conservativeUnattributedRuntimeS := rfl
  simp only [guards, Checked.holds_append, Checked.holds_cons, Checked.holds_flatMap,
    Checked.holds_nil, and_true, decide_eq_false_iff_not, not_lt, Bool.not_eq_false',
    decide_eq_true_eq]
  refine ⟨⟨?_, unresolved, ?_, ?_, ?_, ?_, ?_⟩, ?_⟩
  · rw [total]
    exact add_nonneg known unresolved
  · rw [total]
    linarith only [known]
  · exact reusesContributionId_eq_false_iff.mpr (agree.mono among)
  · exact (agree.mono among).nodup_map nodup_sortedSet
  · rw [total]
    linarith only [unresolved]
  · refine List.any_eq_false.mpr fun contribution member => ?_
    have dated : ∀ date, contribution.localDate = some date → date = left.dateLocal :=
      (mem_union.mp member).elim (counts.dates _) fun there date dated =>
        (counts'.dates _ there date dated).trans agrees.date.symm
    cases dating : contribution.localDate with
    | none => simp
    | some date =>
      have same := dated date dating
      simp [union, same]
  · exact fun contribution member =>
      (mem_union.mp member).elim (counts.formed _) (counts'.formed _)

theorem conservativeMergeDailyRuntime_eq (counts : left.Counts) (counts' : right.Counts)
    (agrees : left.Agrees right) :
    conservativeMergeDailyRuntime left right = .ok (left.union right) := by
  rw [conservativeMergeDailyRuntime, if_neg (not_not.mpr agrees.date),
    deduplicateAccountingContributions_eq (counts.agree_append counts' agrees)]
  exact checkValue_eq_ok_iff.mpr ⟨counts.union_guards counts' agrees, rfl⟩

/-- What the union leaves unresolved is what its parts do. -/
theorem unresolvedRuntime_union :
    (left.union right).unresolvedRuntime = left.unresolvedRuntime + right.unresolvedRuntime := by
  have rest : (left.union right).runtimeS - knownRuntime (left.union right).contributions =
      left.unresolvedRuntime + right.unresolvedRuntime := add_sub_cancel_left _ _
  rw [unresolvedRuntime, rest]
  exact max_self _

theorem Agrees.symm (agrees : left.Agrees right) : right.Agrees left :=
  ⟨agrees.date.symm, fun contribution member other member' same =>
    (agrees.ids other member' contribution member same.symm).symm⟩

theorem Agrees.union (first : left.Agrees third) (second : right.Agrees third) :
    (left.union right).Agrees third :=
  ⟨first.date, fun contribution member => (mem_union.mp member).elim
    (first.ids contribution) (second.ids contribution)⟩

theorem union_congr {left' right' : ZoneDailyRuntime} (date : left.dateLocal = left'.dateLocal)
    (contributions : contributionSet (left.contributions ++ right.contributions) =
      contributionSet (left'.contributions ++ right'.contributions))
    (unresolved : left.unresolvedRuntime + right.unresolvedRuntime =
      left'.unresolvedRuntime + right'.unresolvedRuntime) :
    left.union right = left'.union right' := by
  rw [union, union, date, contributions, unresolved]

theorem Counts.union_comm (counts : left.Counts) (counts' : right.Counts)
    (agrees : left.Agrees right) : left.union right = right.union left := by
  refine union_congr agrees.date ?_ (add_comm ..)
  exact sortedSet_congr (counts.agree_append counts' agrees) fun contribution => by
    rw [List.mem_append, List.mem_append, or_comm]

theorem Counts.union_assoc (counts : left.Counts) (counts' : right.Counts)
    (counts'' : third.Counts) (agrees : left.Agrees right) (agrees' : left.Agrees third)
    (agrees'' : right.Agrees third) :
    (left.union right).union third = left.union (right.union third) := by
  have whole := counts_of_guards (counts.union_guards counts' agrees)
  refine union_congr rfl ?_ ?_
  · exact sortedSet_congr (whole.agree_append counts'' (agrees'.union agrees''))
      fun contribution => by
        rw [List.mem_append, List.mem_append, mem_union, mem_union, or_assoc]
  · rw [unresolvedRuntime_union, unresolvedRuntime_union, add_assoc]

/-- Within its total a counter is the sum of its known and its unresolved runtime. -/
theorem WithinTotal.runtimeS_eq (within : left.WithinTotal) :
    left.runtimeS = knownRuntime left.contributions + left.unresolvedRuntime := by
  have rest : left.conservativeUnattributedRuntimeS ≤
      left.runtimeS - knownRuntime left.contributions := by
    unfold WithinTotal at within
    linarith only [within]
  rw [unresolvedRuntime, max_eq_right rest, add_sub_cancel]

theorem Counts.union_le (counts : left.Counts) (counts' : right.Counts)
    (within : left.WithinTotal) (within' : right.WithinTotal) :
    (left.union right).runtimeS ≤ left.runtimeS + right.runtimeS := by
  have fewer : knownRuntime (left.union right).contributions ≤
      knownRuntime (left.contributions ++ right.contributions) :=
    knownRuntime_le nodup_sortedSet (fun contribution member =>
      List.mem_append.mpr (mem_union.mp member)) fun contribution member =>
      (List.mem_append.mp member).elim (counts.nonnegative _) (counts'.nonnegative _)
  rw [knownRuntime_append] at fewer
  rw [within.runtimeS_eq, within'.runtimeS_eq]
  show knownRuntime (left.union right).contributions + _ ≤ _
  linarith only [fewer]

/-- A counter of contributions that are there already. -/
structure PresentIn (right left : ZoneDailyRuntime) : Prop where
  among : ∀ contribution ∈ right.contributions, contribution ∈ left.contributions
  runtimeS : right.runtimeS = knownRuntime right.contributions
  unattributed : right.conservativeUnattributedRuntimeS = 0

theorem Counts.union_present (counts : left.Counts) (within : left.WithinTotal)
    (present : right.PresentIn left) : (left.union right).runtimeS = left.runtimeS := by
  have known : knownRuntime (contributionSet (left.contributions ++ right.contributions)) =
      knownRuntime left.contributions :=
    knownRuntime_contributionSet counts.nodup fun contribution => by
      rw [List.mem_append]
      exact ⟨fun member => member.elim id (present.among contribution), .inl⟩
  have unresolved : right.unresolvedRuntime = 0 := by
    rw [unresolvedRuntime, present.unattributed, present.runtimeS, sub_self, max_self]
  rw [union, known, unresolved, add_zero, within.runtimeS_eq]

end ZoneDailyRuntime

open ZoneDailyRuntime

/-- What is claimed of the merge of two counters. -/
structure MergesDays (left right merged : ZoneDailyRuntime) : Prop where
  valid : Holds merged.guards
  counted : ∀ contribution, contribution ∈ merged.contributions ↔
    contribution ∈ left.contributions ∨ contribution ∈ right.contributions
  once : (merged.contributions.map AccountingContribution.accountingContributionId).Nodup
  runtimeS : merged.runtimeS =
    knownRuntime merged.contributions + merged.conservativeUnattributedRuntimeS
  atLeast : max left.runtimeS right.runtimeS ≤ merged.runtimeS
  atMost : left.WithinTotal → right.WithinTotal →
    merged.runtimeS ≤ left.runtimeS + right.runtimeS
  present : left.WithinTotal → right.WithinTotal → right.PresentIn left →
    merged.runtimeS = left.runtimeS

/-- The algebra of the merge, for three counters. -/
structure MergeAlgebra (left right third : ZoneDailyRuntime) : Prop where
  merges : left.Agrees right →
    ∃ merged, conservativeMergeDailyRuntime left right = .ok merged ∧ MergesDays left right merged
  comm : left.Agrees right →
    conservativeMergeDailyRuntime left right = conservativeMergeDailyRuntime right left
  assoc : left.Agrees right → left.Agrees third → right.Agrees third →
    (do conservativeMergeDailyRuntime (← conservativeMergeDailyRuntime left right) third) =
    (do conservativeMergeDailyRuntime left (← conservativeMergeDailyRuntime right third))
  raises : (∃ err, conservativeMergeDailyRuntime left right = .error err) ↔
    left.dateLocal ≠ right.dateLocal ∨
    ∃ contribution ∈ left.contributions ++ right.contributions,
      ∃ other ∈ left.contributions ++ right.contributions,
        contribution.accountingContributionId = other.accountingContributionId ∧
        contribution ≠ other

/-- Merging checked counters of one day is defined, commutes and associates, counts every
contribution once and never undercounts.  It fails only on two days or two payloads of one
ID. -/
theorem conservativeMergeDailyRuntime_algebra {left right third : ZoneDailyRuntime}
    (valid : Holds left.guards) (valid' : Holds right.guards) (valid'' : Holds third.guards) :
    MergeAlgebra left right third := by
  have counts := counts_of_guards valid
  have counts' := counts_of_guards valid'
  have counts'' := counts_of_guards valid''
  refine ⟨fun agrees => ⟨_, conservativeMergeDailyRuntime_eq counts counts' agrees, ?_⟩,
    fun agrees => ?_, fun agrees agrees' agrees'' => ?_, ?_⟩
  · have checked := counts.union_guards counts' agrees
    obtain ⟨-, -, first, second⟩ := runtimeS_of_conservativeMergeDailyRuntime valid valid'
      (conservativeMergeDailyRuntime_eq counts counts' agrees)
    exact ⟨checked, fun _ => mem_union,
      (counts_of_guards checked).agree.nodup_map nodup_sortedSet, rfl, max_le first second,
      counts.union_le counts', fun within _ => counts.union_present within⟩
  · rw [conservativeMergeDailyRuntime_eq counts counts' agrees,
      conservativeMergeDailyRuntime_eq counts' counts agrees.symm,
      counts.union_comm counts' agrees]
  · have first := counts_of_guards (counts.union_guards counts' agrees)
    have second := counts_of_guards (counts'.union_guards counts'' agrees'')
    show (conservativeMergeDailyRuntime left right >>= _) =
      (conservativeMergeDailyRuntime right third >>= _)
    rw [conservativeMergeDailyRuntime_eq counts counts' agrees,
      conservativeMergeDailyRuntime_eq counts' counts'' agrees'']
    show conservativeMergeDailyRuntime (left.union right) third =
      conservativeMergeDailyRuntime left (right.union third)
    rw [conservativeMergeDailyRuntime_eq first counts'' (agrees'.union agrees''),
      conservativeMergeDailyRuntime_eq counts second (agrees.symm.union agrees'.symm).symm,
      counts.union_assoc counts' counts'' agrees agrees' agrees'']
  · constructor
    · rintro ⟨err, failed⟩
      by_contra fine
      obtain ⟨date, ids⟩ := not_or.mp fine
      have agrees : left.Agrees right := by
        refine ⟨not_not.mp date, fun contribution member other member' same => ?_⟩
        by_contra differs
        exact ids ⟨contribution, List.mem_append_left _ member, other,
          List.mem_append_right _ member', same, differs⟩
      rw [conservativeMergeDailyRuntime_eq counts counts' agrees] at failed
      cases failed
    · rintro (date | ⟨contribution, member, other, member', same, differs⟩)
      · exact ⟨_, if_pos date⟩
      · by_cases date : left.dateLocal = right.dateLocal
        · have reused : reusesContributionId (left.contributions ++ right.contributions) = true := by
            by_contra unused
            have agree := reusesContributionId_eq_false_iff.mp (Bool.not_eq_true _ ▸ unused)
            exact differs (agree contribution member other member' same)
          refine ⟨.value "accounting contribution ID reused with different payload", ?_⟩
          rw [conservativeMergeDailyRuntime, if_neg (not_not.mpr date),
            deduplicateAccountingContributions, reused]
          rfl
        · exact ⟨_, if_pos date⟩

/-- A day with one pulse of the first record, and runtime of no known pulse. -/
def sampleDay : ZoneDailyRuntime where
  dateLocal := 0
  runtimeS := 100
  conservativeUnattributedRuntimeS := 40
  contributions := [⟨"pulse", "record-a", none, none, 60, false, some 0⟩]

/-- The same day with the same pulse and another one. -/
def restoredDay : ZoneDailyRuntime where
  dateLocal := 0
  runtimeS := 90
  conservativeUnattributedRuntimeS := 0
  contributions :=
    [⟨"pulse", "record-a", none, none, 60, false, some 0⟩,
      ⟨"pulse-b", "record-b", none, none, 30, true, some 0⟩]

/-- The same day from a store that kept no pulses. -/
def migratedDay : ZoneDailyRuntime where
  dateLocal := 0
  runtimeS := 25
  conservativeUnattributedRuntimeS := 25
  contributions := []

/-- The shared pulse counts once. -/
theorem conservativeMergeDailyRuntime_algebra_threeDays :
    ((conservativeMergeDailyRuntime sampleDay restoredDay).toOption.map
      ZoneDailyRuntime.runtimeS = some 130) ∧
      MergeAlgebra sampleDay restoredDay migratedDay :=
  ⟨by decide +kernel, conservativeMergeDailyRuntime_algebra (by decide +kernel)
    (by decide +kernel) (by decide +kernel)⟩

end MoistureLoop
