import MoistureLoop.Store.Updates

/-! # The flow owner after blocker writes

`async_set_record_blocker` keeps a set of blockers and a flow owner.  Removing a blocker
derives the owner from the blockers that are left; adding one takes the owner from the blocker
added.  The two agree exactly as long as no external flow is added over an unconfirmed OFF of
the integration (`flowOwnerDetermined_iff`). -/

namespace MoistureLoop

def flowOwnerOf (blockers : List BlockerReason) : Option PossibleFlowOwner :=
  if .integrationOffUnconfirmed ∈ blockers then some .integration
  else if .externalFlow ∈ blockers then some .external
  else none

/-- One call of `async_set_record_blocker`, and whether its snapshot was written. -/
structure BlockerCall where
  safetyRecordId : String
  reason : BlockerReason
  active : Bool
  saved : Bool
  deriving DecidableEq, Repr

/-- The store after a call: unchanged where nothing is to be saved and where the call raises. -/
def StoreData.afterCall (data : StoreData) (call : BlockerCall) : StoreData :=
  match setRecordBlocker data call.safetyRecordId call.reason call.active with
  | .ok (some changed) =>
    match saveAndVerify changed call.saved with
    | .ok kept => kept
    | .error _ => data
  | .ok none => data
  | .error _ => data

def StoreData.afterCalls (data : StoreData) (calls : List BlockerCall) : StoreData :=
  calls.foldl StoreData.afterCall data

namespace SafetyRecord

variable {record : SafetyRecord} {reason other : BlockerReason} {active : Bool}

/-- The flow owner is the one that the blockers stand for. -/
def OwnerDetermined (record : SafetyRecord) : Prop :=
  record.possibleFlowOwner = flowOwnerOf record.blockerReasons

/-- The blockers after one key changed. -/
theorem mem_withBlocker (distinct : record.blockerReasons.Nodup) :
    other ∈ (record.withBlocker reason active).blockerReasons ↔
      if other = reason then active = true else other ∈ record.blockerReasons := by
  show other ∈ orderBlockers _ ↔ _
  rw [mem_orderBlockers]
  cases active with
  | true =>
    by_cases same : other = reason <;> simp [same]
  | false =>
    by_cases same : other = reason <;> simp [same, distinct.mem_erase_iff]

/-- A call that was made is not made again. -/
theorem withBlocker_again (distinct : record.blockerReasons.Nodup) :
    ((record.withBlocker reason active).withBlocker reason active).blockerReasons =
      (record.withBlocker reason active).blockerReasons := by
  have distinct' : (record.withBlocker reason active).blockerReasons.Nodup := nodup_sortedSet
  show orderBlockers _ = orderBlockers _
  refine orderBlockers_congr fun other => ?_
  have again : other ∈
      ((record.withBlocker reason active).withBlocker reason active).blockerReasons ↔
      other ∈ (record.withBlocker reason active).blockerReasons := by
    rw [mem_withBlocker distinct', mem_withBlocker distinct]
    split <;> rfl
  have once := @mem_orderBlockers
  exact (once.symm.trans again).trans once

end SafetyRecord

/-- The call does not add an external flow over an unconfirmed OFF of the integration. -/
def BlockerCall.KeepsOwner (call : BlockerCall) (record : SafetyRecord) : Prop :=
  call.saved = true → call.active = true → call.reason = .externalFlow →
    .integrationOffUnconfirmed ∈ record.blockerReasons → .externalFlow ∈ record.blockerReasons

namespace SafetyRecord

variable {record : SafetyRecord} {reason : BlockerReason} {active : Bool}

/-- A change of the blockers that adds no external flow over an unconfirmed OFF keeps the owner
determined. -/
theorem OwnerDetermined.withBlocker (distinct : record.blockerReasons.Nodup)
    (determined : record.OwnerDetermined)
    (changed : (record.withBlocker reason active).blockerReasons ≠ record.blockerReasons)
    (keeps : active = true → reason = .externalFlow →
      .integrationOffUnconfirmed ∉ record.blockerReasons) :
    (record.withBlocker reason active).OwnerDetermined := by
  have unconfirmed := @mem_withBlocker record reason .integrationOffUnconfirmed active distinct
  have external := @mem_withBlocker record reason .externalFlow active distinct
  unfold OwnerDetermined at determined ⊢
  show blockerFlowOwner reason active (record.withBlocker reason active).blockerReasons
    record.possibleFlowOwner = _
  cases active with
  | false => rfl
  | true =>
    cases reason with
    | externalFlow =>
      have absent := keeps rfl rfl
      simp [blockerFlowOwner, flowOwnerOf, unconfirmed, external, absent]
    | integrationOffUnconfirmed =>
      simp [blockerFlowOwner, flowOwnerOf, unconfirmed]
    | actuatorNotProvenOff =>
      simp [blockerFlowOwner, flowOwnerOf, unconfirmed, external, determined]

/-- An external flow that is added over an unconfirmed OFF hides the integration's flow. -/
theorem not_ownerDetermined_withBlocker (distinct : record.blockerReasons.Nodup)
    (hidden : .integrationOffUnconfirmed ∈ record.blockerReasons) :
    ¬ (record.withBlocker .externalFlow true).OwnerDetermined := by
  have unconfirmed :=
    @mem_withBlocker record .externalFlow .integrationOffUnconfirmed true distinct
  intro determined
  have owner : flowOwnerOf (record.withBlocker .externalFlow true).blockerReasons =
      some .external := determined.symm
  simp [flowOwnerOf, unconfirmed, hidden] at owner

end SafetyRecord

variable {data : StoreData} {k : String} {record : SafetyRecord} {call : BlockerCall}

def BlockerCall.Changes (call : BlockerCall) (k : String) (record : SafetyRecord) : Prop :=
  call.safetyRecordId = k ∧ call.saved = true ∧
    (record.withBlocker call.reason call.active).blockerReasons ≠ record.blockerReasons

theorem blockers_nodup (found : data.safetyRecords.get? k = some record) :
    record.blockerReasons.Nodup := by
  have valid := data.consistent.records k record found
  simp only [SafetyRecord.guards, Checked.holds_append, Checked.holds_cons] at valid
  simpa using valid.2.2.2.2.1

/-- A call that changes the blockers of a record stores the record with the blocker. -/
theorem record_of_changes (found : data.safetyRecords.get? k = some record)
    (changes : call.Changes k record) :
    (data.afterCall call).safetyRecords.get? k =
      some (record.withBlocker call.reason call.active) := by
  obtain ⟨rfl, saved, changed⟩ := changes
  obtain ⟨-, unchanged⟩ | ⟨data', stored, fields⟩ :=
    setRecordBlocker_total call.reason call.active found
  · exact absurd unchanged changed
  · unfold StoreData.afterCall
    rw [stored]
    simp only [saveAndVerify, saved, if_true]
    rw [fields]
    exact Dict.get?_set_self ..

/-- Every other call leaves it as it is. -/
theorem record_of_not_changes (found : data.safetyRecords.get? k = some record)
    (unchanged : ¬ call.Changes k record) :
    (data.afterCall call).safetyRecords.get? k = some record := by
  unfold StoreData.afterCall
  split
  · rename_i changed blocked
    simp only [saveAndVerify]
    split
    · rename_i kept saved
      obtain ⟨written, same⟩ : call.saved = true ∧ changed = kept := by
        split at saved
        · rename_i written
          exact ⟨written, Except.ok.inj saved⟩
        · cases saved
      subst same
      cases held : data.safetyRecords.get? call.safetyRecordId with
      | none => simp [setRecordBlocker, held] at blocked
      | some own =>
        obtain ⟨nothing, -⟩ | ⟨data', stored, fields⟩ :=
          setRecordBlocker_total call.reason call.active held
        · rw [nothing] at blocked
          cases blocked
        · rw [stored] at blocked
          obtain rfl := Option.some.inj (Except.ok.inj blocked)
          rw [fields]
          by_cases here : k = call.safetyRecordId
          · subst here
            obtain rfl := Option.some.inj (held.symm.trans found)
            by_cases effective :
                (own.withBlocker call.reason call.active).blockerReasons = own.blockerReasons
            · simp only [setRecordBlocker, held, effective, if_true] at stored
              cases stored
            · exact absurd ⟨rfl, written, effective⟩ unchanged
          · exact (Dict.get?_set_of_ne _ _ here).trans found
    · exact found
  · exact found
  · exact found

def SafetyRecord.BlockersOrdered (record : SafetyRecord) : Prop :=
  orderBlockers record.blockerReasons = record.blockerReasons

theorem SafetyRecord.blockersOrdered_withBlocker {reason : BlockerReason} {active : Bool} :
    (record.withBlocker reason active).BlockersOrdered := by
  show orderBlockers (orderBlockers _) = orderBlockers _
  exact orderBlockers_congr fun other => mem_orderBlockers

/-- Adding a blocker that is there changes nothing. -/
theorem SafetyRecord.withBlocker_of_mem {reason : BlockerReason}
    (ordered : record.BlockersOrdered) (present : reason ∈ record.blockerReasons) :
    (record.withBlocker reason true).blockerReasons = record.blockerReasons := by
  refine Eq.trans ?_ ordered
  show orderBlockers (reason :: record.blockerReasons) = _
  refine orderBlockers_congr fun other => ?_
  rw [List.mem_cons]
  exact ⟨fun member => member.elim (fun same => same ▸ present) id, .inr⟩

theorem SafetyRecord.withBlocker_ne_of_not_mem {reason : BlockerReason}
    (absent : reason ∉ record.blockerReasons) :
    (record.withBlocker reason true).blockerReasons ≠ record.blockerReasons := by
  intro same
  have added : reason ∈ (record.withBlocker reason true).blockerReasons :=
    mem_orderBlockers.mpr (List.mem_cons_self ..)
  rw [same] at added
  exact absent added

theorem ownerDetermined_afterCall (found : data.safetyRecords.get? k = some record)
    (determined : record.OwnerDetermined) (ordered : record.BlockersOrdered) :
    ∃ after, (data.afterCall call).safetyRecords.get? k = some after ∧ after.BlockersOrdered ∧
      (after.OwnerDetermined ↔ (call.safetyRecordId = k → call.KeepsOwner record)) := by
  have distinct := blockers_nodup found
  by_cases changes : call.Changes k record
  · refine ⟨_, record_of_changes found changes, SafetyRecord.blockersOrdered_withBlocker, ?_⟩
    obtain ⟨own, saved, changed⟩ := changes
    constructor
    · intro after _ _ active reason hidden
      rw [active, reason] at after
      exact absurd after (SafetyRecord.not_ownerDetermined_withBlocker distinct hidden)
    · intro keeps
      refine determined.withBlocker distinct changed fun active reason hidden => ?_
      have present := keeps own saved active reason hidden
      rw [active, reason] at changed
      exact changed (SafetyRecord.withBlocker_of_mem ordered present)
  · refine ⟨_, record_of_not_changes found changes, ordered, ?_⟩
    refine ⟨fun _ own saved active reason _ => ?_, fun _ => determined⟩
    by_contra absent
    refine changes ⟨own, saved, ?_⟩
    rw [active, reason]
    exact SafetyRecord.withBlocker_ne_of_not_mem absent

theorem afterCalls_append {earlier later : List BlockerCall} :
    data.afterCalls (earlier ++ later) = (data.afterCalls earlier).afterCalls later :=
  List.foldl_append

/-- Every call of this record keeps the owner in the state that it meets. -/
def CallsKeepOwner (data : StoreData) (k : String) (calls : List BlockerCall) : Prop :=
  ∀ earlier call later, calls = earlier ++ call :: later → call.safetyRecordId = k →
    ∀ record, (data.afterCalls earlier).safetyRecords.get? k = some record →
      call.KeepsOwner record

/-- The owner of the record is determined after every part of the sequence. -/
def OwnerDeterminedThroughout (data : StoreData) (k : String) (calls : List BlockerCall) : Prop :=
  ∀ earlier later, calls = earlier ++ later →
    ∃ record, (data.afterCalls earlier).safetyRecords.get? k = some record ∧
      record.OwnerDetermined

/-- From a record without blockers, calls that keep the owner keep it determined. -/
theorem ownerDetermined_of_callsKeepOwner {calls : List BlockerCall}
    (found : data.safetyRecords.get? k = some record) (clear : record.blockerReasons = [])
    (unowned : record.possibleFlowOwner = none) (keep : CallsKeepOwner data k calls) :
    ∃ after, (data.afterCalls calls).safetyRecords.get? k = some after ∧
      after.OwnerDetermined ∧ after.BlockersOrdered := by
  induction calls using List.reverseRecOn with
  | nil =>
    refine ⟨record, found, ?_, ?_⟩
    · rw [SafetyRecord.OwnerDetermined, clear, unowned]
      rfl
    · rw [SafetyRecord.BlockersOrdered, clear]
      rfl
  | append_singleton earlier call ih =>
    obtain ⟨before, held, determined, ordered⟩ := ih fun first call' rest parts =>
      keep first call' (rest ++ [call]) (by rw [parts]; simp)
    obtain ⟨after, held', ordered', iff⟩ := ownerDetermined_afterCall held determined ordered
    refine ⟨after, afterCalls_append ▸ held', iff.mpr fun own => ?_, ordered'⟩
    exact keep earlier call [] rfl own before held

/-- From a record without blockers and owner, its owner stays determined exactly as long as the
calls keep it. -/
theorem flowOwnerDetermined_iff {calls : List BlockerCall}
    (found : data.safetyRecords.get? k = some record) (clear : record.blockerReasons = [])
    (unowned : record.possibleFlowOwner = none) :
    OwnerDeterminedThroughout data k calls ↔ CallsKeepOwner data k calls := by
  constructor
  · intro determined
    induction calls using List.reverseRecOn with
    | nil => intro earlier call later parts; simp at parts
    | append_singleton calls last ih =>
      have keep := ih fun earlier later parts =>
        determined earlier (later ++ [last]) (by rw [parts]; simp)
      obtain ⟨before, held, own, ordered⟩ :=
        ownerDetermined_of_callsKeepOwner found clear unowned keep
      intro earlier call later parts named record' held'
      cases later using List.reverseRecOn with
      | nil =>
        obtain ⟨rfl, same⟩ := List.append_inj' parts rfl
        obtain rfl : last = call := List.singleton_inj.mp same
        obtain rfl := Option.some.inj (held.symm.trans held')
        obtain ⟨after, stored, -, iff⟩ := @ownerDetermined_afterCall _ _ _ last held own ordered
        obtain ⟨after', stored', own'⟩ := determined (calls ++ [last]) [] (by simp)
        rw [afterCalls_append] at stored'
        obtain rfl := Option.some.inj (stored.symm.trans stored')
        exact iff.mp own' named
      | append_singleton rest other =>
        have shifted : calls ++ [last] = (earlier ++ call :: rest) ++ [other] := by
          rw [parts]
          simp
        exact keep earlier call rest (List.append_inj' shifted rfl).1 named record' held'
  · intro keep earlier later parts
    have keep' : CallsKeepOwner data k earlier := fun first call rest parts' =>
      keep first call (rest ++ later) (by rw [parts, parts']; simp)
    obtain ⟨after, held, own, -⟩ :=
      ownerDetermined_of_callsKeepOwner found clear unowned keep'
    exact ⟨after, held, own⟩

/-- A call that is made again changes nothing. -/
theorem afterCall_again : (data.afterCall call).afterCall call = data.afterCall call := by
  cases held : data.safetyRecords.get? call.safetyRecordId with
  | none =>
    have raised : data.afterCall call = data := by
      simp [StoreData.afterCall, setRecordBlocker, held]
    rw [raised, raised]
  | some record =>
    by_cases changes : call.Changes call.safetyRecordId record
    · have found := record_of_changes held changes
      have again := @SafetyRecord.withBlocker_again record call.reason call.active
        (blockers_nodup held)
      generalize data.afterCall call = after at found
      simp [StoreData.afterCall, setRecordBlocker, found, again]
    · have unchanged : data.afterCall call = data := by
        obtain ⟨nothing, -⟩ | ⟨data', stored, fields⟩ :=
          setRecordBlocker_total call.reason call.active held
        · simp [StoreData.afterCall, nothing]
        · have unsaved : call.saved = false := by
            by_contra saved
            refine changes ⟨rfl, by simpa using saved, fun same => ?_⟩
            simp [setRecordBlocker, held, same] at stored
          simp [StoreData.afterCall, stored, saveAndVerify, unsaved]
      rw [unchanged, unchanged]

/-- The flow owner of a record that starts without blockers and owner is determined by its
blockers throughout a sequence of calls exactly when every call keeps it; two such sequences
that end with the same blockers end with the same owner, and no call does anything twice. -/
theorem setRecordBlocker_determinesOwner (found : data.safetyRecords.get? k = some record)
    (clear : record.blockerReasons = []) (unowned : record.possibleFlowOwner = none) :
    (∀ calls, OwnerDeterminedThroughout data k calls ↔ CallsKeepOwner data k calls) ∧
    (∀ calls calls' after after', CallsKeepOwner data k calls → CallsKeepOwner data k calls' →
      (data.afterCalls calls).safetyRecords.get? k = some after →
      (data.afterCalls calls').safetyRecords.get? k = some after' →
      (∀ reason, reason ∈ after.blockerReasons ↔ reason ∈ after'.blockerReasons) →
      after.possibleFlowOwner = after'.possibleFlowOwner) ∧
    ∀ (data : StoreData) (call : BlockerCall),
      (data.afterCall call).afterCall call = data.afterCall call := by
  refine ⟨fun calls => flowOwnerDetermined_iff found clear unowned,
    fun calls calls' after after' keep keep' held held' same => ?_,
    fun data call => afterCall_again⟩
  obtain ⟨_, held₁, own, -⟩ := ownerDetermined_of_callsKeepOwner found clear unowned keep
  obtain ⟨_, held₂, own', -⟩ := ownerDetermined_of_callsKeepOwner found clear unowned keep'
  obtain rfl := Option.some.inj (held₁.symm.trans held)
  obtain rfl := Option.some.inj (held₂.symm.trans held')
  rw [own, own']
  simp only [flowOwnerOf, same]

theorem setRecordBlocker_determinesOwner_sampleStore :
    (∀ calls, OwnerDeterminedThroughout sampleStore "record-a" calls ↔
      CallsKeepOwner sampleStore "record-a" calls) ∧
    (∀ calls calls' after after', CallsKeepOwner sampleStore "record-a" calls →
      CallsKeepOwner sampleStore "record-a" calls' →
      (sampleStore.afterCalls calls).safetyRecords.get? "record-a" = some after →
      (sampleStore.afterCalls calls').safetyRecords.get? "record-a" = some after' →
      (∀ reason, reason ∈ after.blockerReasons ↔ reason ∈ after'.blockerReasons) →
      after.possibleFlowOwner = after'.possibleFlowOwner) ∧
    ∀ (data : StoreData) (call : BlockerCall),
      (data.afterCall call).afterCall call = data.afterCall call :=
  setRecordBlocker_determinesOwner
    (show sampleStore.safetyRecords.get? "record-a" =
      some (sampleRecord "record-a" "bed" "history-a" "uuid-a" "switch.a") by decide +kernel)
    rfl rfl

/-- An external flow that is reported over an unconfirmed OFF of the integration becomes the
owner. -/
theorem not_ownerDetermined_external_over_unconfirmed :
    ¬ ∀ (data : StoreData) (k : String) (record after : SafetyRecord) (calls : List BlockerCall),
      data.safetyRecords.get? k = some record → record.blockerReasons = [] →
      record.possibleFlowOwner = none →
      (data.afterCalls calls).safetyRecords.get? k = some after → after.OwnerDetermined := by
  intro determined
  let calls : List BlockerCall :=
    [⟨"record-a", .integrationOffUnconfirmed, true, true⟩, ⟨"record-a", .externalFlow, true, true⟩]
  have checked : ((sampleStore.afterCalls calls).safetyRecords.get? "record-a").any
      (fun after => after.possibleFlowOwner ≠ flowOwnerOf after.blockerReasons) = true := by
    decide +kernel
  obtain ⟨after, held, differs⟩ := (Option.any_eq_true _ _).mp checked
  exact of_decide_eq_true differs (determined sampleStore "record-a" _ after calls
    (show sampleStore.safetyRecords.get? "record-a" =
      some (sampleRecord "record-a" "bed" "history-a" "uuid-a" "switch.a") by decide +kernel)
    rfl rfl held)

end MoistureLoop
