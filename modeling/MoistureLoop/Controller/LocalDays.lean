import MoistureLoop.Controller.State
import MoistureLoop.Foundations.Binary64

/-! # Intervals split at local days

`split_interval_by_local_days` walks from one local midnight of a zone to the next one.  The
spans are exact, and the seconds returned for them are binary64 numbers.  What is charged to a
day is the part of the interval on that day, but for the roundings, exactly where the midnights
of the zone end its days (`localDayLaw_iff`), as they do in a `LocalCalendar`. -/

namespace MoistureLoop

/-- A `tzinfo`, as far as the split asks it.  Instants and durations are counted in
microseconds, the resolution of `datetime`. -/
structure TimeZone where
  /-- `instant.astimezone(tz).date()`. -/
  localDate : Int → LocalDate
  /-- `datetime.combine(day, time(0), tzinfo=tz).astimezone(UTC)`. -/
  midnight : LocalDate → Int

/-- The part of an interval that was given to one local day, by its span. -/
structure DaySegment where
  day : LocalDate
  length : Int
  deriving DecidableEq, Repr

/-- `timedelta.total_seconds`: the nearest binary64 number. -/
def totalSeconds (span : Int) : Seconds := Binary64.round ((span : ℚ) / 1000000)

/-- What is returned of the span. -/
def DaySegment.seconds (segment : DaySegment) : Seconds := totalSeconds segment.length

namespace TimeZone

variable (tz : TimeZone)

/-- The end of the segment that begins at `cursor`. -/
def segmentEnd (endUtc cursor : Int) : Int :=
  let boundary := tz.midnight (tz.localDate cursor + 1)
  -- Pathological zone data: the remainder is charged here.
  min (if boundary ≤ cursor then endUtc else boundary) endUtc

theorem segmentEnd_bounds {endUtc cursor : Int} (before : cursor < endUtc) :
    cursor < tz.segmentEnd endUtc cursor ∧ tz.segmentEnd endUtc cursor ≤ endUtc := by
  simp only [segmentEnd]
  split <;> omega

/-- The loop from `cursor` on. -/
def splitFrom (endUtc cursor : Int) : List DaySegment :=
  if cursor < endUtc then
    ⟨tz.localDate cursor, tz.segmentEnd endUtc cursor - cursor⟩ ::
      splitFrom endUtc (tz.segmentEnd endUtc cursor)
  else []
termination_by (endUtc - cursor).toNat
decreasing_by
  have bounds := tz.segmentEnd_bounds ‹cursor < endUtc›
  omega

/-- `split_interval_by_local_days`. -/
def splitIntervalByLocalDays (startUtc endUtc : Int) : Except String (List DaySegment) :=
  if endUtc < startUtc then .error "end_utc must not precede start_utc"
  else
    let segments := tz.splitFrom endUtc startUtc
    .ok (if segments = [] then [⟨tz.localDate startUtc, 0⟩] else segments)

/-- `current_day_charge`; `sum` compensates for the roundings of its additions. -/
def currentDayCharge (startUtc endUtc : Int) (day : LocalDate) : Except String Seconds :=
  (tz.splitIntervalByLocalDays startUtc endUtc).map fun segments =>
    Binary64.sum ((segments.filter fun segment => segment.day = day).map DaySegment.seconds)

/-! ## What the split is for -/

/-- The local date never goes back. -/
def DatesNeverDecrease : Prop :=
  ∀ earlier later, earlier ≤ later → tz.localDate earlier ≤ tz.localDate later

/-- Segments that follow each other from `cursor` on contain instants of their own days only. -/
def OnOwnDates : Int → List DaySegment → Prop
  | _, [] => True
  | cursor, segment :: rest =>
    (∀ instant, cursor ≤ instant → instant < cursor + segment.length →
      tz.localDate instant = segment.day) ∧
    OnOwnDates (cursor + segment.length) rest

/-- The law of the split.  The spans sum up exactly, the seconds returned for them but for the
rounding of each, and charges add up but for a relative error of `2⁻⁴⁸`. -/
structure LocalDayLaw : Prop where
  sums : ∀ startUtc endUtc, startUtc ≤ endUtc →
    ∃ segments, tz.splitIntervalByLocalDays startUtc endUtc = .ok segments ∧
      (∀ segment ∈ segments, 0 ≤ segment.length ∧ 0 ≤ segment.seconds) ∧
      (segments.map DaySegment.length).sum = endUtc - startUtc ∧
      |(segments.map DaySegment.seconds).sum - ((endUtc - startUtc : Int) : ℚ) / 1000000| ≤
        Binary64.unitRoundoff * (((endUtc - startUtc : Int) : ℚ) / 1000000)
  days : tz.DatesNeverDecrease → ∀ startUtc endUtc segments, startUtc ≤ endUtc →
    tz.splitIntervalByLocalDays startUtc endUtc = .ok segments →
    (segments.map DaySegment.day).Pairwise (· < ·) ∧ tz.OnOwnDates startUtc segments
  additive : ∀ startUtc cut endUtc day, startUtc ≤ cut → cut ≤ endUtc →
    ∃ whole first second, tz.currentDayCharge startUtc endUtc day = .ok whole ∧
      tz.currentDayCharge startUtc cut day = .ok first ∧
      tz.currentDayCharge cut endUtc day = .ok second ∧
      |whole - (first + second)| ≤
        32 * Binary64.unitRoundoff * (((endUtc - startUtc : Int) : ℚ) / 1000000)

/-- From every instant the local date stays until the midnight that the zone gives for the next
date, and for ever where that midnight is not ahead.  In a zone whose date never goes back
that midnight is no longer of the same date. -/
structure MidnightsEndDays : Prop where
  stays : ∀ cursor instant, cursor ≤ instant →
    instant < tz.midnight (tz.localDate cursor + 1) ∨
      tz.midnight (tz.localDate cursor + 1) ≤ cursor →
    tz.localDate instant = tz.localDate cursor
  ends : tz.DatesNeverDecrease → ∀ cursor, cursor < tz.midnight (tz.localDate cursor + 1) →
    tz.localDate (tz.midnight (tz.localDate cursor + 1)) ≠ tz.localDate cursor

/-! ## The loop -/

variable {tz} {startUtc cut endUtc cursor : Int} {day : LocalDate}

theorem splitFrom_of_lt (before : cursor < endUtc) :
    tz.splitFrom endUtc cursor =
      ⟨tz.localDate cursor, tz.segmentEnd endUtc cursor - cursor⟩ ::
        tz.splitFrom endUtc (tz.segmentEnd endUtc cursor) := by
  rw [splitFrom, if_pos before]

theorem splitFrom_of_le (after : endUtc ≤ cursor) : tz.splitFrom endUtc cursor = [] := by
  rw [splitFrom, if_neg (not_lt.mpr after)]

theorem length_pos_of_mem_splitFrom {segment : DaySegment}
    (member : segment ∈ tz.splitFrom endUtc cursor) : 0 < segment.length := by
  induction cursor using splitFrom.induct tz endUtc with
  | case1 cursor before ih =>
    rw [splitFrom_of_lt before] at member
    obtain rfl | later := List.mem_cons.mp member
    · have bounds := tz.segmentEnd_bounds before
      show 0 < tz.segmentEnd endUtc cursor - cursor
      omega
    · exact ih later
  | case2 cursor after =>
    rw [splitFrom_of_le (not_lt.mp after)] at member
    cases member

theorem sum_splitFrom (ordered : cursor ≤ endUtc) :
    ((tz.splitFrom endUtc cursor).map DaySegment.length).sum = endUtc - cursor := by
  induction cursor using splitFrom.induct tz endUtc with
  | case1 cursor before ih =>
    have bounds := tz.segmentEnd_bounds before
    rw [splitFrom_of_lt before, List.map_cons, List.sum_cons, ih bounds.2]
    show tz.segmentEnd endUtc cursor - cursor + _ = _
    omega
  | case2 cursor after =>
    rw [splitFrom_of_le (not_lt.mp after)]
    simp only [List.map_nil, List.sum_nil]
    omega

/-- Every segment is given to the date of an instant that is not before the first one. -/
theorem day_of_mem_splitFrom {segment : DaySegment}
    (member : segment ∈ tz.splitFrom endUtc cursor) :
    ∃ instant, cursor ≤ instant ∧ segment.day = tz.localDate instant := by
  induction cursor using splitFrom.induct tz endUtc with
  | case1 cursor before ih =>
    rw [splitFrom_of_lt before] at member
    obtain rfl | later := List.mem_cons.mp member
    · exact ⟨cursor, le_rfl, rfl⟩
    · obtain ⟨instant, after, same⟩ := ih later
      exact ⟨instant, (tz.segmentEnd_bounds before).1.le.trans after, same⟩
  | case2 cursor after =>
    rw [splitFrom_of_le (not_lt.mp after)] at member
    cases member

theorem splitIntervalByLocalDays_eq (ordered : startUtc ≤ endUtc) :
    tz.splitIntervalByLocalDays startUtc endUtc =
      .ok (if startUtc < endUtc then tz.splitFrom endUtc startUtc
        else [⟨tz.localDate startUtc, 0⟩]) := by
  rw [splitIntervalByLocalDays, if_neg (not_lt.mpr ordered)]
  split
  · rename_i before
    rw [splitFrom_of_lt before]
    rfl
  · rename_i after
    rw [splitFrom_of_le (not_lt.mp after)]
    rfl

/-- The span that some segments give to one day. -/
def charged (segments : List DaySegment) (day : LocalDate) : Int :=
  ((segments.filter fun segment => segment.day = day).map DaySegment.length).sum

theorem charged_cons {segment : DaySegment} {rest : List DaySegment} :
    charged (segment :: rest) day =
      (if segment.day = day then segment.length else 0) + charged rest day := by
  by_cases same : segment.day = day <;> simp [charged, same]

/-- No more is charged to a day than the interval is long. -/
theorem charged_splitFrom_le (ordered : cursor ≤ endUtc) :
    charged (tz.splitFrom endUtc cursor) day ≤ endUtc - cursor := by
  induction cursor using splitFrom.induct tz endUtc with
  | case1 cursor before ih =>
    have bounds := tz.segmentEnd_bounds before
    have rest := ih bounds.2
    rw [splitFrom_of_lt before, charged_cons]
    simp only
    split <;> omega
  | case2 cursor after =>
    rw [splitFrom_of_le (not_lt.mp after)]
    simp only [charged, List.filter_nil, List.map_nil, List.sum_nil]
    omega

/-- Once the midnight that ends a day has passed, what is of the day again runs to the end. -/
theorem length_ofDay_le_one (passed : tz.midnight (day + 1) ≤ cursor) :
    ((tz.splitFrom endUtc cursor).filter fun segment => segment.day = day).length ≤ 1 := by
  induction cursor using splitFrom.induct tz endUtc with
  | case1 cursor before ih =>
    have bounds := tz.segmentEnd_bounds before
    rw [splitFrom_of_lt before]
    by_cases same : tz.localDate cursor = day
    · have last : tz.segmentEnd endUtc cursor = endUtc := by
        simp only [segmentEnd, same, if_pos passed, min_self]
      rw [last, splitFrom_of_le le_rfl]
      exact List.length_filter_le ..
    · rw [List.filter_cons_of_neg (by simpa using same)]
      exact ih (passed.trans bounds.1.le)
  | case2 cursor after =>
    rw [splitFrom_of_le (not_lt.mp after)]
    exact Nat.zero_le _

/-- A day gets two segments at most: one up to its midnight, and one up to the end. -/
theorem length_ofDay_le_two :
    ((tz.splitFrom endUtc cursor).filter fun segment => segment.day = day).length ≤ 2 := by
  induction cursor using splitFrom.induct tz endUtc with
  | case1 cursor before ih =>
    rw [splitFrom_of_lt before]
    by_cases same : tz.localDate cursor = day
    · rw [List.filter_cons_of_pos (by simpa using same), List.length_cons]
      have rest : ((tz.splitFrom endUtc (tz.segmentEnd endUtc cursor)).filter
          fun segment => segment.day = day).length ≤ 1 := by
        by_cases last : endUtc ≤ tz.segmentEnd endUtc cursor
        · rw [splitFrom_of_le last]
          exact Nat.zero_le _
        · apply length_ofDay_le_one
          simp only [segmentEnd, same] at last ⊢
          split at last <;> split <;> omega
      omega
    · rw [List.filter_cons_of_neg (by simpa using same)]
      exact ih
  | case2 cursor after =>
    rw [splitFrom_of_le (not_lt.mp after)]
    exact Nat.zero_le _

/-! ## Seconds -/

theorem least_of_pos {span : Int} (positive : 0 < span) :
    (1 : ℚ) / 1000000 ≤ span / 1000000 := by
  have least : (1 : ℚ) ≤ span := by exact_mod_cast positive
  linarith

/-- Half a microsecond is a normal number. -/
theorem normal_half : (2 : ℚ) ^ (-1022 : ℤ) ≤ 1 / 2000000 :=
  calc (2 : ℚ) ^ (-1022 : ℤ) ≤ 2 ^ (-21 : ℤ) :=
        zpow_le_zpow_right₀ (by norm_num) (by norm_num)
    _ ≤ 1 / 2000000 := by norm_num

theorem abs_totalSeconds_sub_le {span : Int} (positive : 0 < span) :
    |totalSeconds span - span / 1000000| ≤ Binary64.unitRoundoff * (span / 1000000) := by
  have least := least_of_pos positive
  have normal := normal_half
  refine Binary64.abs_round_sub_le (abs_of_pos ?_).le ?_ <;> linarith

theorem seconds_nonneg {segment : DaySegment} (nonneg : 0 ≤ segment.length) :
    0 ≤ segment.seconds :=
  Binary64.round_nonneg (div_nonneg (by exact_mod_cast nonneg) (by norm_num))

/-- Every span is rounded once. -/
theorem abs_sum_map_seconds_sub_le {segments : List DaySegment}
    (positive : ∀ segment ∈ segments, 0 < segment.length) :
    |(segments.map DaySegment.seconds).sum -
        ((segments.map DaySegment.length).sum : Int) / 1000000| ≤
      Binary64.unitRoundoff * (((segments.map DaySegment.length).sum : Int) / 1000000) := by
  induction segments with
  | nil => simp
  | cons segment rest ih =>
    obtain ⟨low, high⟩ := abs_le.mp (abs_totalSeconds_sub_le (positive segment (by simp)))
    obtain ⟨low', high'⟩ := abs_le.mp (ih fun other member => positive other (by simp [member]))
    have own : segment.seconds = totalSeconds segment.length := rfl
    simp only [List.map_cons, List.sum_cons, Int.cast_add, own]
    rw [abs_le]
    constructor <;> linarith

/-- Two segments at most are summed up with few roundings. -/
theorem abs_sum_seconds_sub_le {segments : List DaySegment} (few : segments.length ≤ 2)
    (positive : ∀ segment ∈ segments, 0 < segment.length) :
    |Binary64.sum (segments.map DaySegment.seconds) -
        ((segments.map DaySegment.length).sum : Int) / 1000000| ≤
      16 * Binary64.unitRoundoff * (((segments.map DaySegment.length).sum : Int) / 1000000) := by
  match segments with
  | [] => simp [Binary64.sum]
  | [segment] =>
    have least := least_of_pos (positive segment (by simp))
    have error := abs_totalSeconds_sub_le (positive segment (by simp))
    simp only [List.map_cons, List.map_nil, Binary64.sum_singleton, List.sum_singleton]
    refine error.trans ?_
    rw [Binary64.unitRoundoff]
    linarith
  | [first, second] =>
    have least := least_of_pos (positive first (by simp))
    have least' := least_of_pos (positive second (by simp))
    obtain ⟨low, high⟩ := abs_le.mp (abs_totalSeconds_sub_le (positive first (by simp)))
    obtain ⟨low', high'⟩ := abs_le.mp (abs_totalSeconds_sub_le (positive second (by simp)))
    have normal := normal_half
    have added := Binary64.abs_sum_pair_sub_le
      (seconds_nonneg (positive first (by simp)).le)
      (seconds_nonneg (positive second (by simp)).le) (by
        simp only [DaySegment.seconds]
        rw [Binary64.unitRoundoff] at low low'
        linarith)
    obtain ⟨below, above⟩ := abs_le.mp added
    simp only [List.map_cons, List.map_nil, List.sum_cons, List.sum_nil, add_zero, Int.cast_add]
    simp only [DaySegment.seconds] at below above ⊢
    rw [Binary64.unitRoundoff] at *
    rw [abs_le]
    constructor <;> linarith
  | first :: second :: third :: rest => simp at few

/-- A segment of no length charges nothing. -/
theorem currentDayCharge_eq (ordered : startUtc ≤ endUtc) :
    tz.currentDayCharge startUtc endUtc day =
      .ok (Binary64.sum (((tz.splitFrom endUtc startUtc).filter
        fun segment => segment.day = day).map DaySegment.seconds)) := by
  rw [currentDayCharge, splitIntervalByLocalDays_eq ordered]
  split
  · rfl
  · rename_i after
    rw [splitFrom_of_le (not_lt.mp after)]
    by_cases same : tz.localDate startUtc = day
    · simp [Except.map, same, DaySegment.seconds, totalSeconds, Binary64.round_zero, Binary64.sum]
    · simp [Except.map, same]

/-- What is charged to a day is the span that it got, but for the roundings. -/
theorem exists_currentDayCharge (ordered : startUtc ≤ endUtc) :
    ∃ charge, tz.currentDayCharge startUtc endUtc day = .ok charge ∧
      |charge - (charged (tz.splitFrom endUtc startUtc) day : Int) / 1000000| ≤
        16 * Binary64.unitRoundoff *
          ((charged (tz.splitFrom endUtc startUtc) day : Int) / 1000000) := by
  refine ⟨_, currentDayCharge_eq ordered, ?_⟩
  apply abs_sum_seconds_sub_le length_ofDay_le_two
  intro segment member
  exact length_pos_of_mem_splitFrom (List.mem_filter.mp member).1

theorem currentDayCharge_of_whole (before : startUtc < endUtc)
    (whole : tz.segmentEnd endUtc startUtc = endUtc) :
    tz.currentDayCharge startUtc endUtc day =
      .ok (if tz.localDate startUtc = day then totalSeconds (endUtc - startUtc) else 0) := by
  rw [currentDayCharge_eq before.le, splitFrom_of_lt before, whole, splitFrom_of_le le_rfl]
  by_cases same : tz.localDate startUtc = day
  · simp [same, Binary64.sum_singleton, DaySegment.seconds]
  · simp [same, Binary64.sum]

/-! ## The part of an interval on a day -/

noncomputable def overlap (tz : TimeZone) (startUtc endUtc : Int) (day : LocalDate) : Int :=
  ((Finset.Ico startUtc endUtc).filter fun instant => tz.localDate instant = day).card

theorem overlap_add (first : startUtc ≤ cut) (second : cut ≤ endUtc) :
    tz.overlap startUtc endUtc day = tz.overlap startUtc cut day + tz.overlap cut endUtc day := by
  have apart : Disjoint (Finset.Ico startUtc cut) (Finset.Ico cut endUtc) :=
    Finset.Ico_disjoint_Ico_consecutive startUtc cut endUtc
  unfold overlap
  rw [← Finset.Ico_union_Ico_eq_Ico first second, Finset.filter_union,
    Finset.card_union_of_disjoint (apart.mono (Finset.filter_subset ..) (Finset.filter_subset ..))]
  exact Nat.cast_add ..

theorem overlap_of_same {other : LocalDate} (ordered : startUtc ≤ endUtc)
    (same : ∀ instant, startUtc ≤ instant → instant < endUtc → tz.localDate instant = other) :
    tz.overlap startUtc endUtc day = if other = day then endUtc - startUtc else 0 := by
  unfold overlap
  split
  · rename_i here
    rw [Finset.filter_true_of_mem fun instant member => by
      obtain ⟨from', before⟩ := Finset.mem_Ico.mp member
      exact (same instant from' before).trans here]
    rw [Int.card_Ico, Int.toNat_of_nonneg (by omega)]
  · rename_i elsewhere
    rw [Finset.filter_false_of_mem fun instant member => by
      obtain ⟨from', before⟩ := Finset.mem_Ico.mp member
      rw [same instant from' before]
      exact elsewhere]
    rfl

theorem MidnightsEndDays.segment (midnights : tz.MidnightsEndDays) {instant : Int}
    (from' : cursor ≤ instant) (before : instant < tz.segmentEnd endUtc cursor) :
    tz.localDate instant = tz.localDate cursor := by
  refine midnights.stays cursor instant from' ?_
  simp only [segmentEnd] at before
  split at before
  · rename_i passed
    exact .inr passed
  · exact .inl (by omega)

/-- What the loop charges to a day is the part of the interval on the day. -/
theorem MidnightsEndDays.charged_eq (midnights : tz.MidnightsEndDays) (ordered : cursor ≤ endUtc) :
    charged (tz.splitFrom endUtc cursor) day = tz.overlap cursor endUtc day := by
  induction cursor using splitFrom.induct tz endUtc with
  | case1 cursor before ih =>
    have bounds := tz.segmentEnd_bounds before
    rw [splitFrom_of_lt before, charged_cons, ih bounds.2,
      overlap_add bounds.1.le bounds.2,
      overlap_of_same bounds.1.le fun instant => midnights.segment]
  | case2 cursor after =>
    have equal : cursor = endUtc := by omega
    subst equal
    rw [splitFrom_of_le le_rfl]
    simp [overlap, charged]

theorem MidnightsEndDays.onOwnDates (midnights : tz.MidnightsEndDays) :
    tz.OnOwnDates cursor (tz.splitFrom endUtc cursor) := by
  induction cursor using splitFrom.induct tz endUtc with
  | case1 cursor before ih =>
    rw [splitFrom_of_lt before]
    have next : cursor + (tz.segmentEnd endUtc cursor - cursor) = tz.segmentEnd endUtc cursor := by
      omega
    refine ⟨fun instant from' inside => ?_, ?_⟩
    · rw [show cursor + DaySegment.length ⟨_, _⟩ = _ from next] at inside
      exact midnights.segment from' inside
    · rw [show cursor + DaySegment.length ⟨_, _⟩ = _ from next]
      exact ih
  | case2 cursor after =>
    rw [splitFrom_of_le (not_lt.mp after)]
    trivial

theorem MidnightsEndDays.pairwise (midnights : tz.MidnightsEndDays)
    (forward : tz.DatesNeverDecrease) :
    ((tz.splitFrom endUtc cursor).map DaySegment.day).Pairwise (· < ·) := by
  induction cursor using splitFrom.induct tz endUtc with
  | case1 cursor before ih =>
    rw [splitFrom_of_lt before, List.map_cons, List.pairwise_cons]
    refine ⟨fun other member => ?_, ih⟩
    obtain ⟨segment, inside, rfl⟩ := List.mem_map.mp member
    have more : tz.segmentEnd endUtc cursor < endUtc := by
      by_contra finished
      rw [splitFrom_of_le (not_lt.mp finished)] at inside
      cases inside
    -- The loop goes on at the next midnight, which is of another date.
    have ahead : cursor < tz.midnight (tz.localDate cursor + 1) ∧
        tz.segmentEnd endUtc cursor = tz.midnight (tz.localDate cursor + 1) := by
      simp only [segmentEnd] at more ⊢
      split at more <;> split <;> omega
    obtain ⟨instant, after, same⟩ := day_of_mem_splitFrom inside
    have left := midnights.ends forward cursor ahead.1
    have next := forward cursor _ ahead.1.le
    have later := forward _ instant after
    rw [ahead.2] at later
    rw [same]
    exact (lt_of_le_of_ne next left.symm).trans_le later
  | case2 cursor after =>
    rw [splitFrom_of_le (not_lt.mp after)]
    exact List.Pairwise.nil

theorem MidnightsEndDays.localDayLaw (midnights : tz.MidnightsEndDays) : tz.LocalDayLaw where
  sums startUtc endUtc ordered := by
    refine ⟨_, splitIntervalByLocalDays_eq ordered, ?_⟩
    split
    · have positive : ∀ segment ∈ tz.splitFrom endUtc startUtc, 0 < segment.length :=
        fun _ => length_pos_of_mem_splitFrom
      have rounded := abs_sum_map_seconds_sub_le positive
      rw [sum_splitFrom ordered] at rounded
      exact ⟨fun segment member => ⟨(positive segment member).le,
        seconds_nonneg (positive segment member).le⟩, sum_splitFrom ordered, rounded⟩
    · rename_i after
      obtain rfl : startUtc = endUtc := le_antisymm ordered (not_lt.mp after)
      simp [DaySegment.seconds, totalSeconds, Binary64.round_zero]
  days forward startUtc endUtc segments ordered split := by
    rw [splitIntervalByLocalDays_eq ordered] at split
    obtain rfl := Except.ok.inj split
    split
    · exact ⟨midnights.pairwise forward, midnights.onOwnDates⟩
    · refine ⟨by simp, fun instant from' before => ?_, trivial⟩
      simp only [add_zero] at before
      omega
  additive startUtc cut endUtc day first second := by
    have ordered := first.trans second
    obtain ⟨whole, charge, error⟩ := exists_currentDayCharge ordered
    obtain ⟨before, chargeBefore, errorBefore⟩ := exists_currentDayCharge first
    obtain ⟨after, chargeAfter, errorAfter⟩ := exists_currentDayCharge second
    refine ⟨whole, before, after, charge, chargeBefore, chargeAfter, ?_⟩
    have most := @charged_splitFrom_le tz endUtc startUtc day ordered
    rw [midnights.charged_eq ordered] at error most
    rw [midnights.charged_eq first] at errorBefore
    rw [midnights.charged_eq second] at errorAfter
    have added := @overlap_add tz startUtc cut endUtc day first second
    have most' : (tz.overlap startUtc endUtc day : ℚ) ≤ (endUtc - startUtc : Int) := by
      exact_mod_cast most
    have added' : (tz.overlap startUtc endUtc day : ℚ) =
        tz.overlap startUtc cut day + tz.overlap cut endUtc day := by exact_mod_cast added
    obtain ⟨low, high⟩ := abs_le.mp error
    obtain ⟨lowBefore, highBefore⟩ := abs_le.mp errorBefore
    obtain ⟨lowAfter, highAfter⟩ := abs_le.mp errorAfter
    rw [Binary64.unitRoundoff] at *
    rw [abs_le]
    constructor <;> linarith

/-- Where charges are additive, two instants on the same side of the midnight are of one date:
the two microseconds together are charged to the first one's. -/
theorem LocalDayLaw.next (law : tz.LocalDayLaw)
    (inside : cursor + 1 < tz.midnight (tz.localDate cursor + 1) ∨
      tz.midnight (tz.localDate cursor + 1) ≤ cursor) :
    tz.localDate (cursor + 1) = tz.localDate cursor := by
  by_contra other
  have both : tz.segmentEnd (cursor + 1 + 1) cursor = cursor + 1 + 1 := by
    simp only [segmentEnd]
    split <;> omega
  have one : ∀ instant, tz.segmentEnd (instant + 1) instant = instant + 1 := by
    intro instant
    have bounds := tz.segmentEnd_bounds (show instant < instant + 1 by omega)
    omega
  obtain ⟨whole, first, second, charge, chargeFirst, chargeSecond, same⟩ :=
    law.additive cursor (cursor + 1) (cursor + 1 + 1) (tz.localDate cursor) (by omega) (by omega)
  rw [currentDayCharge_of_whole (by omega) both, if_pos rfl] at charge
  rw [currentDayCharge_of_whole (by omega) (one cursor), if_pos rfl] at chargeFirst
  rw [currentDayCharge_of_whole (by omega) (one (cursor + 1)), if_neg other] at chargeSecond
  obtain rfl := Except.ok.inj charge
  obtain rfl := Except.ok.inj chargeFirst
  obtain rfl := Except.ok.inj chargeSecond
  rw [show cursor + 1 + 1 - cursor = 2 by omega, show cursor + 1 - cursor = 1 by omega] at same
  obtain ⟨-, high⟩ := abs_le.mp same
  obtain ⟨low, -⟩ := abs_le.mp (abs_totalSeconds_sub_le (show (0 : Int) < 2 by omega))
  obtain ⟨-, high'⟩ := abs_le.mp (abs_totalSeconds_sub_le (show (0 : Int) < 1 by omega))
  norm_num [Binary64.unitRoundoff] at high low high'
  linarith

theorem LocalDayLaw.stays (law : tz.LocalDayLaw) {instant : Int} (from' : cursor ≤ instant)
    (inside : instant < tz.midnight (tz.localDate cursor + 1) ∨
      tz.midnight (tz.localDate cursor + 1) ≤ cursor) :
    tz.localDate instant = tz.localDate cursor := by
  induction instant, from' using Int.leInduction with
  | base => rfl
  | succ instant from' ih =>
    have same := ih (by omega)
    rw [← same]
    apply law.next
    rw [same]
    omega

theorem LocalDayLaw.ends (law : tz.LocalDayLaw) (forward : tz.DatesNeverDecrease)
    (ahead : cursor < tz.midnight (tz.localDate cursor + 1)) :
    tz.localDate (tz.midnight (tz.localDate cursor + 1)) ≠ tz.localDate cursor := by
  intro same
  let boundary := tz.midnight (tz.localDate cursor + 1)
  have before : cursor < boundary + 1 := by omega
  have here : tz.segmentEnd (boundary + 1) cursor = boundary := by
    simp only [segmentEnd]
    split <;> omega
  obtain ⟨increasing, -⟩ := law.days forward cursor (boundary + 1) _ before.le
    (splitIntervalByLocalDays_eq before.le)
  rw [if_pos before, splitFrom_of_lt before, here, splitFrom_of_lt (by omega)] at increasing
  simp only [List.map_cons, List.pairwise_cons, List.mem_cons] at increasing
  exact absurd (increasing.1 _ (.inl rfl)) (by
    show ¬ tz.localDate cursor < tz.localDate boundary
    rw [same]
    exact lt_irrefl _)

/-- The split keeps its law exactly in the zones whose midnights end their days. -/
theorem localDayLaw_iff (tz : TimeZone) : tz.LocalDayLaw ↔ tz.MidnightsEndDays :=
  ⟨fun law => ⟨fun _ _ => law.stays, fun forward _ => law.ends forward⟩,
    MidnightsEndDays.localDayLaw⟩

/-- A zone whose offset changes once, at `transition`.  As `datetime` resolves them with
`fold=0`, a local midnight that occurs twice is the first one, and one that does not exist is
read with the offset from before. -/
def withTransition (transition before after : Int) : TimeZone where
  localDate instant := (instant + if instant < transition then before else after) / 86400000000
  midnight day :=
    let local' := day * 86400000000
    if local' < transition + max before after then local' - before else local' - after

/-- A zone that goes back one hour a minute after midnight, from 2:30 to 3:30 behind UTC: the
hour before midnight comes twice, and an interval cut in its second run charges all that
follows to the day before. -/
theorem not_localDayLaw_repeatedMidnight : ¬ ∀ tz : TimeZone, tz.LocalDayLaw := by
  intro law
  let tz := withTransition 9060000000 (-9000000000) (-12600000000)
  obtain ⟨whole, first, second, charge, chargeFirst, chargeSecond, same⟩ :=
    (law tz).additive 7200000000 10800000000 21600000000 (-1) (by decide) (by decide)
  have midnight (endUtc : Int) (later : 9000000000 < endUtc) :
      tz.segmentEnd endUtc 7200000000 = 9000000000 := by
    have here : tz.midnight (tz.localDate 7200000000 + 1) = 9000000000 := by decide +kernel
    simp only [segmentEnd, here]
    omega
  have rest (endUtc : Int) (sooner : endUtc ≤ 21600000000) :
      tz.segmentEnd endUtc 9000000000 = endUtc := by
    have here : tz.midnight (tz.localDate 9000000000 + 1) = 99000000000 := by decide +kernel
    simp only [segmentEnd, here]
    omega
  have passed : tz.segmentEnd 21600000000 10800000000 = 21600000000 := by decide +kernel
  have dates : tz.localDate 7200000000 = -1 ∧ tz.localDate 9000000000 = 0 ∧
      tz.localDate 10800000000 = -1 := by decide +kernel
  rw [currentDayCharge_eq (by decide), splitFrom_of_lt (by decide), midnight _ (by decide),
    splitFrom_of_lt (by decide), rest _ le_rfl, splitFrom_of_le le_rfl] at charge
  rw [currentDayCharge_eq (by decide), splitFrom_of_lt (by decide), midnight _ (by decide),
    splitFrom_of_lt (by decide), rest _ (by decide), splitFrom_of_le le_rfl] at chargeFirst
  rw [currentDayCharge_eq (by decide), splitFrom_of_lt (by decide), passed,
    splitFrom_of_le le_rfl] at chargeSecond
  obtain rfl := Except.ok.inj charge
  obtain rfl := Except.ok.inj chargeFirst
  obtain rfl := Except.ok.inj chargeSecond
  have seconds : totalSeconds 1800000000 = 1800 ∧ totalSeconds 10800000000 = 10800 := by
    decide +kernel
  norm_num [dates, DaySegment.seconds, seconds, Binary64.sum_singleton, Binary64.unitRoundoff]
    at same

/-! ## The calendar of the controllers -/

structure Follows (tz : TimeZone) (calendar : LocalCalendar) : Prop where
  localDate : ∀ instant, tz.localDate instant = calendar.dayOf (instant / 1000000)
  midnight : ∀ day, (tz.midnight day : Instant) / 1000000 = calendar.dayStart day

variable {calendar : LocalCalendar}

theorem Follows.localDate_eq_iff (follows : tz.Follows calendar) {instant : Int} :
    tz.localDate instant = day ↔ tz.midnight day ≤ instant ∧ instant < tz.midnight (day + 1) := by
  rw [follows.localDate, calendar.dayOf_spec, ← follows.midnight, ← follows.midnight,
    div_le_div_iff_of_pos_right (by norm_num), div_lt_div_iff_of_pos_right (by norm_num),
    Int.cast_le, Int.cast_lt]

theorem Follows.midnightsEndDays (follows : tz.Follows calendar) : tz.MidnightsEndDays where
  stays cursor instant from' inside := by
    have here := follows.localDate_eq_iff.mp (rfl : tz.localDate cursor = tz.localDate cursor)
    refine follows.localDate_eq_iff.mpr ⟨here.1.trans from', ?_⟩
    exact inside.resolve_right (not_le.mpr here.2)
  ends _ cursor _ same := (follows.localDate_eq_iff.mp same).2.ne rfl

/-- In such a zone the split charges what the calendar of the controllers charges, but for the
roundings. -/
theorem Follows.currentDayCharge (follows : tz.Follows calendar) (ordered : startUtc ≤ endUtc) :
    ∃ charge, tz.currentDayCharge startUtc endUtc day = .ok charge ∧
      |charge - calendar.currentDayCharge (startUtc / 1000000) (endUtc / 1000000) day| ≤
        16 * Binary64.unitRoundoff *
          calendar.currentDayCharge (startUtc / 1000000) (endUtc / 1000000) day := by
  obtain ⟨charge, charges, error⟩ := exists_currentDayCharge ordered
  refine ⟨charge, charges, ?_⟩
  rw [follows.midnightsEndDays.charged_eq ordered] at error
  have part : (Finset.Ico startUtc endUtc).filter (fun instant => tz.localDate instant = day) =
      Finset.Ico (max startUtc (tz.midnight day)) (min endUtc (tz.midnight (day + 1))) := by
    ext instant
    simp only [Finset.mem_filter, Finset.mem_Ico, follows.localDate_eq_iff, max_le_iff, lt_min_iff]
    tauto
  have larger (x y : ℚ) : max x y / 1000000 = max (x / 1000000) (y / 1000000) :=
    (max_div_div_right (by norm_num) x y).symm
  have smaller (x y : ℚ) : min x y / 1000000 = min (x / 1000000) (y / 1000000) :=
    (min_div_div_right (by norm_num) x y).symm
  have same : ((tz.overlap startUtc endUtc day : Int) : ℚ) / 1000000 =
      calendar.currentDayCharge (startUtc / 1000000) (endUtc / 1000000) day := by
    rw [overlap, part, Int.card_Ico, Int.toNat_eq_max, LocalCalendar.currentDayCharge,
      ← follows.midnight, ← follows.midnight, max_comm]
    push_cast
    rw [larger, sub_div, smaller, larger, zero_div]
  rwa [same] at error

end TimeZone

end MoistureLoop
