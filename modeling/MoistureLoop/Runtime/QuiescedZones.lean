import MoistureLoop.Runtime.AdmittedZones

/-! # Changed zones are quiesced

Before a pass plans the store it quiesces every binding whose zone is gone or configured
otherwise, and the loop that drops these bindings lifts it from those only whose record has the
zone's configuration.  In between the final gate refuses a changed zone, whatever else it
reads. -/

namespace MoistureLoop

/-- From the end of the quiescing loop to that of the loop that drops bindings. -/
def PassPosition.changesOwners : PassPosition → Bool
  | .displacing _ | .planning | .publishing _ | .dropping _ => true
  | .preparing _ (.displaced _) | .starting _ (.displaced _) | .detaching _ (.dropped _) => true
  | _ => false

namespace RuntimeRegistry

variable {registry registry' : RuntimeRegistry} {snapshot : ImmutableEntrySnapshot}
  {subentryId : String} {current : Bool} {position : PassPosition}

/-- The zone of the binding is in the snapshot, with the configuration of the binding. -/
def unchanged (snapshot : ImmutableEntrySnapshot) (subentryId : String)
    (binding : RuntimeControllerBinding Nat) : Bool :=
  (snapshot.bySubentryId subentryId).any fun zone =>
    zone.configFingerprint = binding.appliedShadow.configFingerprint

/-- The bindings of changed zones but those of `rest` are quiescing. -/
def QuietBut (registry : RuntimeRegistry) (snapshot : ImmutableEntrySnapshot)
    (rest : List String) : Prop :=
  ∀ subentryId binding, registry.bindings.get? subentryId = some binding →
    subentryId ∈ rest ∨ unchanged snapshot subentryId binding = true ∨ binding.quiescing = true

def PositionQuiet (registry : RuntimeRegistry) (snapshot : ImmutableEntrySnapshot) :
    PassPosition → Prop
  | .quiescing rest => registry.QuietBut snapshot rest
  | position => position.changesOwners = true → registry.QuietBut snapshot []

def Quiet (registry : RuntimeRegistry) : Prop :=
  ∀ snapshot position, registry.pass = some (snapshot, position) →
    registry.PositionQuiet snapshot position

theorem PositionQuiet.of_bindings (quiet : registry.PositionQuiet snapshot position)
    (bindings : registry'.bindings = registry.bindings) :
    registry'.PositionQuiet snapshot position := by
  have same : ∀ rest, registry.QuietBut snapshot rest → registry'.QuietBut snapshot rest := by
    intro rest quiet subentryId binding found
    rw [bindings] at found
    exact quiet subentryId binding found
  cases position with
  | quiescing rest => exact same rest quiet
  | _ => exact fun changes => same [] (quiet changes)

theorem QuietBut.at' (quiet : registry.PositionQuiet snapshot position) :
    (registry.at' snapshot position).Quiet := by
  intro snapshot' position' moved
  obtain ⟨rfl, rfl⟩ := Prod.mk.inj (Option.some.inj moved)
  exact quiet.of_bindings rfl

theorem quiet_leave : registry.leave.Quiet := by
  intro snapshot position moved
  cases moved

/-! ## Turns of the pass -/

theorem quiesceChanged_quiet {rest : List String}
    (quiet : registry.QuietBut snapshot (subentryId :: rest)) :
    (registry.quiesceChanged snapshot subentryId).QuietBut snapshot rest := by
  have others : ∀ other binding, registry.bindings.get? other = some binding →
      other ≠ subentryId →
      other ∈ rest ∨ unchanged snapshot other binding = true ∨ binding.quiescing = true := by
    intro other binding found differs
    refine (quiet other binding found).imp_left fun member => ?_
    obtain rfl | member := List.mem_cons.mp member
    · exact absurd rfl differs
    · exact member
  unfold quiesceChanged
  split
  · rename_i absent
    intro other binding found
    refine others other binding found ?_
    rintro rfl
    rw [absent] at found
    cases found
  · rename_i binding found
    split
    · rename_i same
      intro other binding' found'
      by_cases here : other = subentryId
      · subst here
        obtain rfl := Option.some.inj (found.symm.trans found')
        exact .inr (.inl same)
      · exact others other binding' found' here
    · intro other binding' found'
      by_cases here : other = subentryId
      · subst here
        obtain rfl := Option.some.inj (found'.symm.trans (Dict.get?_set_self ..))
        exact .inr (.inr rfl)
      · exact others other binding' ((Dict.get?_set_of_ne _ _ here).symm.trans found') here

theorem make_quiet {zoneId safetyRecordId : String} {config : ZoneConfig} {after : AfterStart}
    (quiet : ∀ controller, registry.PositionQuiet snapshot (.preparing controller after)) :
    (registry.make snapshot zoneId safetyRecordId config after).Quiet := by
  unfold make
  split
  · exact quiet_leave
  · exact QuietBut.at' ((quiet _).of_bindings rfl)

/-- A binding that stays has the configuration of its zone. -/
theorem unchanged_of_keptRecord {binding : RuntimeControllerBinding Nat} {record : SafetyRecord}
    {shadow : AppliedConfigurationShadow}
    (kept : registry.keptRecord snapshot subentryId binding = some (record, shadow)) :
    unchanged snapshot subentryId { binding with
      lifecycle := .active
      appliedShadow := shadow
      zoneHistoryId := record.zoneHistoryId
      quiescing := false } = true := by
  unfold keptRecord at kept
  split at kept
  · rename_i desired own configured _
    split at kept
    · obtain ⟨⟨-, -, fingerprint⟩, same⟩ := Option.ite_none_right_eq_some.mp kept
      obtain ⟨-, rfl⟩ := Prod.mk.inj (Option.some.inj same)
      simp [unchanged, configured, fingerprint]
    · cases kept
  · cases kept

theorem dropChanged_quiet {rest : List String} (quiet : registry.QuietBut snapshot []) :
    (registry.dropChanged snapshot subentryId rest current).Quiet := by
  have fewer : (registry.unbind subentryId).QuietBut snapshot [] := by
    intro other binding found
    by_cases here : other = subentryId
    · subst here
      rw [show (registry.unbind other).bindings.get? other = none from Dict.get?_erase_self ..]
        at found
      cases found
    · exact quiet other binding ((Dict.get?_erase_of_ne _ here).symm.trans found)
  unfold dropChanged
  split
  · exact QuietBut.at' fun _ => quiet
  · rename_i binding found
    split
    · rename_i record shadow kept
      refine QuietBut.at' fun _ other binding' found' => ?_
      by_cases here : other = subentryId
      · subst here
        obtain rfl := Option.some.inj (found'.symm.trans (Dict.get?_set_self ..))
        exact .inr (.inl (unchanged_of_keptRecord kept))
      · exact quiet other binding' ((Dict.get?_set_of_ne _ _ here).symm.trans found')
    · split
      · exact quiet_leave
      · split
        · exact QuietBut.at' fun _ => fewer
        · exact QuietBut.at' fun _ => fewer

/-- Where a position changes no owner, nothing is asked of the bindings. -/
theorem quiet_elsewhere (later : ∀ rest, position ≠ .quiescing rest)
    (changes : position.changesOwners = false) : (registry.at' snapshot position).Quiet := by
  apply QuietBut.at'
  cases position with
  | quiescing rest => exact absurd rfl (later rest)
  | _ => exact fun changes' => absurd (changes.symm.trans changes') Bool.false_ne_true

theorem make_quiet_elsewhere {zoneId safetyRecordId : String} {config : ZoneConfig}
    {after : AfterStart}
    (changes : ∀ controller, (PassPosition.preparing controller after).changesOwners = false) :
    (registry.make snapshot zoneId safetyRecordId config after).Quiet :=
  make_quiet fun controller changes' =>
    absurd ((changes controller).symm.trans changes') Bool.false_ne_true

theorem createMissing_quiet {zone : ImmutableZoneSnapshot} {rest : List ImmutableZoneSnapshot} :
    (registry.createMissing snapshot zone rest).Quiet := by
  unfold createMissing
  split
  · split
    · exact quiet_elsewhere (fun _ => by simp) rfl
    · split
      · exact quiet_elsewhere (fun _ => by simp) rfl
      · exact quiet_elsewhere (fun _ => by simp) rfl
  · exact quiet_leave

theorem createController_quiet {zone : ImmutableZoneSnapshot} {record : SafetyRecord}
    {rest : List ImmutableZoneSnapshot} :
    (registry.createController snapshot zone record rest).Quiet := by
  unfold createController
  split
  · split
    · exact make_quiet_elsewhere fun _ => rfl
    · exact quiet_leave
  · exact quiet_leave

theorem releaseBound_quiet {safetyRecordId : String} {bound rest : List String} :
    (registry.releaseBound snapshot safetyRecordId bound rest).Quiet := by
  unfold releaseBound
  split
  · exact quiet_elsewhere (fun _ => by simp) rfl
  · split
    · exact quiet_elsewhere (fun _ => by simp) rfl
    · exact quiet_elsewhere (fun _ => by simp) rfl

theorem observeRecord_quiet {record : SafetyRecord} {bound : List String}
    {rest : List SafetyRecord} :
    (registry.observeRecord snapshot record bound rest current).Quiet := by
  unfold observeRecord
  split
  · exact quiet_elsewhere (fun _ => by simp) rfl
  · split
    · exact quiet_leave
    · exact quiet_elsewhere (fun _ => by simp) rfl
    · split
      · exact quiet_elsewhere (fun _ => by simp) rfl
      · split
        · exact quiet_leave
        · exact make_quiet_elsewhere fun _ => rfl

theorem retireSettled_quiet {safetyRecordId : String} {rest : List String} :
    (registry.retireSettled snapshot safetyRecordId rest).Quiet := by
  unfold retireSettled
  split
  · exact quiet_elsewhere (fun _ => by simp) rfl
  · split
    · exact quiet_leave
    · simp only
      split
      · exact quiet_elsewhere (fun _ => by simp) rfl
      · exact quiet_elsewhere (fun _ => by simp) rfl

/-- The pass goes on, or it was superseded and ends. -/
theorem quiet_through {goesOn : Prop} [Decidable goesOn]
    (quiet : goesOn → (registry.at' snapshot position).Quiet) :
    (if goesOn then registry.at' snapshot position else registry.leave).Quiet := by
  split
  · rename_i going
    exact quiet going
  · exact quiet_leave

/-- A controller made for a displaced session stands before the plan, all others after it. -/
theorem preparing_quiet {controller : Nat} {after : AfterStart}
    (fixed : registry.PositionQuiet snapshot (.preparing controller after))
    (advanced : registry.advance snapshot current (.preparing controller after) =
      some registry') : registry'.Quiet := by
  simp only [advance] at advanced
  split at advanced
  · cases advanced
  · obtain rfl := Option.some.inj advanced
    split
    · cases after with
      | displaced rest => exact QuietBut.at' fun _ => fixed rfl
      | live | retained => exact quiet_elsewhere (fun _ => by simp) rfl
    · exact quiet_leave

theorem starting_quiet {controller : Nat} {after : AfterStart}
    (fixed : registry.PositionQuiet snapshot (.starting controller after))
    (advanced : registry.advance snapshot current (.starting controller after) =
      some registry') : registry'.Quiet := by
  simp only [advance] at advanced
  split at advanced
  · cases advanced
  · obtain rfl := Option.some.inj advanced
    cases after with
    | displaced rest => exact QuietBut.at' fun _ => fixed rfl
    | live | retained => exact quiet_elsewhere (fun _ => by simp) rfl

/-- One turn of the pass. -/
theorem advance_quiet (quiet : registry.Quiet)
    (at' : registry.pass = some (snapshot, position))
    (advanced : registry.advance snapshot current position = some registry') :
    registry'.Quiet := by
  have fixed := quiet snapshot position at'
  cases position with
  | preparing controller after => exact preparing_quiet fixed advanced
  | starting controller after => exact starting_quiet fixed advanced
  | planning | refreshing => cases advanced
  -- Up to the first loop of the synchronization the changed bindings are quiescing.
  | quiescing rest =>
    cases rest with
    | nil =>
      obtain rfl := Option.some.inj advanced
      exact quiet_through fun _ => QuietBut.at' fun _ => fixed
    | cons subentryId rest =>
      obtain rfl := Option.some.inj advanced
      have quieted : (registry.quiesceChanged snapshot subentryId).QuietBut snapshot rest :=
        quiesceChanged_quiet fixed
      exact QuietBut.at' quieted
  | displacing rest =>
    cases rest with
    | nil =>
      obtain rfl := Option.some.inj advanced
      exact quiet_through fun _ => QuietBut.at' fun _ => fixed rfl
    | cons history rest =>
      obtain rfl := Option.some.inj advanced
      split
      · exact QuietBut.at' fun _ => fixed rfl
      · exact make_quiet fun _ _ => fixed rfl
  | publishing conflicts =>
    obtain rfl := Option.some.inj advanced
    exact quiet_through fun _ => QuietBut.at' fun _ => fixed rfl
  | dropping rest =>
    cases rest with
    | nil =>
      obtain rfl := Option.some.inj advanced
      exact quiet_elsewhere (fun _ => by simp) rfl
    | cons subentryId rest =>
      obtain rfl := Option.some.inj advanced
      exact dropChanged_quiet (fixed rfl)
  | detaching controller after =>
    obtain rfl := Option.some.inj advanced
    cases after with
    | dropped rest => exact QuietBut.at' fun _ => fixed rfl
    | replaced | released | retired => exact quiet_elsewhere (fun _ => by simp) rfl
  -- Behind it nothing is left to show.
  | creating rest =>
    cases rest with
    | nil =>
      obtain rfl := Option.some.inj advanced
      exact quiet_through fun _ => quiet_elsewhere (fun _ => by simp) rfl
    | cons zone rest =>
      obtain rfl := Option.some.inj advanced
      exact createMissing_quiet
  | making zone record rest =>
    obtain rfl := Option.some.inj advanced
    split
    · exact createController_quiet
    · exact quiet_leave
  | releasing bound rest =>
    cases rest with
    | nil =>
      obtain rfl := Option.some.inj advanced
      exact quiet_elsewhere (fun _ => by simp) rfl
    | cons safetyRecordId rest =>
      obtain rfl := Option.some.inj advanced
      exact releaseBound_quiet
  | observing bound rest =>
    cases rest with
    | nil =>
      obtain rfl := Option.some.inj advanced
      exact quiet_elsewhere (fun _ => by simp) rfl
    | cons record rest =>
      obtain rfl := Option.some.inj advanced
      exact observeRecord_quiet
  | retiring rest =>
    cases rest with
    | nil =>
      obtain rfl := Option.some.inj advanced
      exact quiet_through fun _ => quiet_elsewhere (fun _ => by simp) rfl
    | cons safetyRecordId rest =>
      obtain rfl := Option.some.inj advanced
      exact retireSettled_quiet
  | rereading =>
    obtain rfl := Option.some.inj advanced
    intro snapshot' position' moved
    cases moved

theorem step_quiet {label : RegistryLabel} (quiet : registry.Quiet)
    (stepped : registry.step label = some registry') : registry'.Quiet := by
  -- Only the pass moves its own position.
  have unmoved : ∀ {next : RuntimeRegistry}, next.pass = registry.pass →
      next.bindings = registry.bindings → next.Quiet := by
    intro next pass bindings snapshot position at'
    rw [pass] at at'
    exact (quiet snapshot position at').of_bindings bindings
  cases label with
  | begin snapshot =>
    obtain ⟨-, same⟩ := Option.ite_none_right_eq_some.mp stepped
    obtain rfl := Option.some.inj same
    intro snapshot' position moved
    obtain ⟨rfl, rfl⟩ := Prod.mk.inj (Option.some.inj moved)
    -- Every binding is still to be looked at.
    intro subentryId binding found
    exact .inl (Dict.isSome_get?_iff.mp (Option.isSome_iff_exists.mpr ⟨binding, found⟩))
  | go current =>
    simp only [step] at stepped
    split at stepped
    · cases stepped
    · rename_i snapshot position at'
      split at stepped
      · cases stepped
      · exact advance_quiet quiet at' stepped
  | plan env saved =>
    simp only [step] at stepped
    split at stepped
    · rename_i snapshot at'
      obtain rfl := Option.some.inj stepped
      split
      · -- The plan hands zones over after their bindings were quiesced.
        exact QuietBut.at' fun _ => quiet snapshot .planning at' rfl
      · exact quiet_leave
    · cases stepped
  | refresh entities assessments saved =>
    simp only [step] at stepped
    split at stepped
    · obtain rfl := Option.some.inj stepped
      split
      · exact quiet_elsewhere (fun _ => by simp) rfl
      · exact quiet_leave
    · cases stepped
  | raise =>
    obtain ⟨pass, at', rfl⟩ := Option.map_eq_some_iff.mp stepped
    exact quiet_leave
  | stored write =>
    obtain ⟨data, -, rfl⟩ := Option.map_eq_some_iff.mp stepped
    exact unmoved rfl rfl
  | quiesce | renamed | stop =>
    obtain rfl := Option.some.inj stepped
    exact unmoved rfl rfl
  | unload =>
    obtain ⟨-, same⟩ := Option.ite_none_right_eq_some.mp stepped
    obtain rfl := Option.some.inj same
    exact unmoved rfl rfl
  | detachNext =>
    simp only [step] at stepped
    split at stepped
    · cases stepped
    · obtain rfl := Option.some.inj stepped
      -- The last turn of an unloading leaves no binding at all.
      have cleared : ∀ snapshot rest, ({ registry with
          bindings := .empty
          retained := .empty } : RuntimeRegistry).QuietBut snapshot rest := by
        intro snapshot rest subentryId binding found
        cases found
      intro snapshot position at'
      cases position with
      | quiescing rest => exact cleared snapshot rest
      | _ => exact fun _ => cleared snapshot []
    · obtain rfl := Option.some.inj stepped
      exact unmoved rfl rfl

/-! ## The final gate -/

/-- A quiescing binding fails the gate, whatever the coordinator says. -/
theorem failedPredicates_ne_nil_of_quiescing {view : EntryView Nat} {key : Nat}
    {controller : ZoneController} {store : StoreData} {binding : RuntimeControllerBinding Nat}
    (found : view.bindings.get? controller.zoneId = some binding)
    (quiescing : binding.quiescing = true) :
    view.failedPredicates key controller store ≠ [] := by
  have inactive : view.runtimeLifecycleActive key controller = false := by
    simp [EntryView.runtimeLifecycleActive, found, quiescing]
  simp [EntryView.failedPredicates, inactive]

/-- In every run, while a pass changes the owners of records, the final gate refuses every
controller whose zone is gone from the snapshot or configured otherwise than its binding,
under every view of the coordinator and of the configuration. -/
theorem refusesChangedZones_of_run {store : StoreData}
    (reached : system.Run (fun _ _ _ => True) { store := store } registry)
    (at' : registry.pass = some (snapshot, position)) (changes : position.changesOwners = true)
    {view : EntryView Nat} {key : Nat} {controller : ZoneController} {data : StoreData}
    (bindings : view.bindings = registry.bindings)
    (changed : ∀ binding, registry.bindings.get? controller.zoneId = some binding →
      unchanged snapshot controller.zoneId binding = false) :
    view.failedPredicates key controller data ≠ [] := by
  have quiet : registry.Quiet := by
    have initial : Quiet { store := store } := by
      intro snapshot position none'
      cases none'
    apply reached.preserves initial
    intro before label after held stepped _
    exact step_quiet held stepped
  cases found : registry.bindings.get? controller.zoneId with
  | none =>
    have unbound : view.runtimeLifecycleActive key controller = false := by
      simp [EntryView.runtimeLifecycleActive, bindings, found]
    simp [EntryView.failedPredicates, unbound]
  | some binding =>
    have calm : registry.QuietBut snapshot [] := by
      have fixed := quiet snapshot position at'
      cases position with
      | quiescing rest => cases changes
      | _ => exact fixed changes
    have quiescing : binding.quiescing = true := by
      obtain none' | same | quiescing := calm _ binding found
      · cases none'
      · rw [changed binding found] at same
        cases same
      · exact quiescing
    exact failedPredicates_ne_nil_of_quiescing (bindings ▸ found) quiescing

/-- The old switch is refused while the bed's record is handed over. -/
theorem refusesChangedZones_of_run_replaced :
    ∃ registry : RuntimeRegistry, system.Run (fun _ _ _ => True) { store := flowingStore } registry ∧
      (registry.bindings.get? "bed").isSome = true ∧
      ∀ (controller : ZoneController) (data : StoreData), controller.zoneId = "bed" →
        (registry.publishedView (sampleSnapshot "uuid-b" "switch.b")).failedPredicates 0 controller
          data ≠ [] := by
  obtain ⟨registry, executed, checked⟩ := (Option.any_eq_true _ _).mp
    (show (system.run { store := flowingStore } (replacedValve.take 23)).any (fun registry =>
        (registry.bindings.get? "bed").isSome &&
        registry.pass.any (fun pass =>
          decide (pass.1 = sampleSnapshot "uuid-b" "switch.b") && pass.2.changesOwners) &&
        (registry.bindings.get? "bed").all fun binding =>
          !unchanged (sampleSnapshot "uuid-b" "switch.b") "bed" binding) = true by decide +kernel)
  simp only [Bool.and_eq_true, Option.any_eq_true, decide_eq_true_eq, Option.all_eq_true,
    Bool.not_eq_true'] at checked
  obtain ⟨⟨bound, ⟨snapshot, position⟩, at', rfl, changes⟩, changed⟩ := checked
  have reached := LabelledSystem.Run.of_run executed
  refine ⟨registry, reached, bound, fun controller data zone => ?_⟩
  refine refusesChangedZones_of_run reached at' changes rfl fun binding found => ?_
  rw [zone] at found ⊢
  exact changed binding found

end RuntimeRegistry

end MoistureLoop
