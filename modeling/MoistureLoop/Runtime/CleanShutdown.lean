import MoistureLoop.Runtime.StoppedCommands

/-! # The clean marker of a shutdown

The run is marked clean by the last step of a pass in which nothing failed, and by nothing
else.  The account follows the pass through its loops: whose state is still to be written, and
what the hazard check found. -/

namespace MoistureLoop

/-- The controllers whose state the pass has still to write. -/
def ShutdownPosition.unvisited {κ : Type} (snapshot : List κ) : ShutdownPosition κ → List κ
  | .persisting rest => rest
  | .writing key rest => key :: rest
  | .checking | .marking | .reported => []
  | _ => snapshot

namespace StoppingEntry

variable {κ : Type} [DecidableEq κ] {state next start finish : StoppingEntry κ}
  {label : ShutdownLabel κ} {shutdown : Stage1Shutdown κ} {key : κ}

/-! ## The account of a pass -/

/-- What the hazard check found: no flow of the integration, and OFF proven where it has to be. -/
def Checked (state : StoppingEntry κ) (shutdown : Stage1Shutdown κ) : Prop :=
  ∃ data readings, shutdown.checked = some (data, readings) ∧
    (∀ safetyRecordId record, data.safetyRecords.get? safetyRecordId = some record →
      record.integrationHazard = false) ∧
    ∀ key ∈ shutdown.snapshot, shutdown.awaitsProof (state.entry.controllers key) = true →
      (readings key).provenOff = true

/-- The state of the controller is written, or `_owns_zone_runtime` denied it its zone. -/
def Settled (shutdown : Stage1Shutdown κ) (key : κ) : Prop :=
  key ∈ shutdown.written ∨ ∃ controller data, (key, controller, data) ∈ shutdown.denied ∧
    controller.ownsZoneRuntime data = false

/-- What the pass has done of what a clean run needs; `run` are the run IDs it began with. -/
structure Accounted (run : RunIds) (state : StoppingEntry κ) (shutdown : Stage1Shutdown κ) :
    Prop where
  visited : ∀ key ∈ shutdown.snapshot, key ∈ shutdown.position.unvisited shutdown.snapshot ∨
    Settled shutdown key ∨ shutdown.failures ≠ []
  marking : shutdown.position = .marking → shutdown.failures = [] ∧ Checked state shutdown
  marked : shutdown.position = .reported → shutdown.failures = [] → Checked state shutdown ∧
    state.entry.shared.store.run = ⟨run.activeRunId, run.activeRunId⟩
  unmarked : (shutdown.position = .reported → shutdown.failures ≠ []) →
    state.entry.shared.store.run = run

variable {run : RunIds} {shutdown' : Stage1Shutdown κ}

omit [DecidableEq κ] in
/-- A step of the pass towards anything but the marker. -/
theorem Accounted.goesOn (accounted : Accounted run state shutdown)
    (runs : shutdown.position ≠ .reported)
    (same : next.entry.shared.store.run = state.entry.shared.store.run)
    (visited : ∀ key ∈ shutdown'.snapshot, key ∈ shutdown'.position.unvisited shutdown'.snapshot ∨
      Settled shutdown' key ∨ shutdown'.failures ≠ [])
    (unmarked : shutdown'.position ≠ .marking)
    (ended : shutdown'.position = .reported → shutdown'.failures ≠ []) :
    Accounted run next shutdown' where
  visited := visited
  marking at' := absurd at' unmarked
  marked at' clean := absurd clean (ended at')
  unmarked _ := same.trans (accounted.unmarked fun at' => absurd at' runs)

/-- What other tasks do leaves the account. -/
theorem Accounted.others (accounted : Accounted run state shutdown)
    (moved : OthersMove state label next) : Accounted run next shutdown := by
  have run' := moved.run
  have checked : Checked state shutdown → Checked next shutdown := by
    rintro ⟨data, readings, read, calm, proven⟩
    refine ⟨data, readings, read, calm, fun key member awaits => proven key member ?_⟩
    simpa only [Stage1Shutdown.awaitsProof, moved.safetyRecordId key] using awaits
  refine ⟨accounted.visited, fun at' => ?_, fun at' clean => ?_, fun open' => ?_⟩
  · exact ⟨(accounted.marking at').1, checked (accounted.marking at').2⟩
  · obtain ⟨found, marked⟩ := accounted.marked at' clean
    exact ⟨checked found, run'.trans marked⟩
  · exact run'.trans (accounted.unmarked open')

omit [DecidableEq κ] in
/-- The pass goes on in one of its loops before the states are written. -/
theorem Accounted.moves (accounted : Accounted run state shutdown)
    (runs : shutdown.position ≠ .reported)
    (same : next.entry.shared.store.run = state.entry.shared.store.run)
    (unwritten : shutdown'.position.unvisited shutdown'.snapshot = shutdown'.snapshot)
    (unmarked : shutdown'.position ≠ .marking) (unended : shutdown'.position ≠ .reported) :
    Accounted run next shutdown' :=
  accounted.goesOn runs same (fun key member => .inl (by rw [unwritten]; exact member)) unmarked
    fun at' => absurd at' unended

omit [DecidableEq κ] in
/-- The pass ends with a failure. -/
theorem Accounted.fails (accounted : Accounted run state shutdown)
    (runs : shutdown.position ≠ .reported)
    (same : next.entry.shared.store.run = state.entry.shared.store.run) (failure : String) :
    Accounted run next ((shutdown.fail failure).at' .reported) :=
  accounted.goesOn runs same (fun _ _ => .inr (.inr (by simp))) (by simp) fun _ => by
      simp

omit [DecidableEq κ] in
theorem Accounted.visit {rest : List κ} (accounted : Accounted run state shutdown)
    (stands : shutdown.position = .persisting (key :: rest)) :
    ∃ shutdown', (state.visit shutdown key rest).shutdown = some shutdown' ∧
      Accounted run (state.visit shutdown key rest) shutdown' := by
  have runs : shutdown.position ≠ .reported := by simp [stands]
  have visited := accounted.visited
  simp only [stands, ShutdownPosition.unvisited] at visited
  unfold StoppingEntry.visit
  simp only
  split
  · refine ⟨_, rfl, accounted.goesOn runs rfl (fun other _ => .inr (.inr ?_)) ?_ ?_⟩ <;>
      simp
  · split
    · rename_i denied
      refine ⟨_, rfl, accounted.goesOn runs rfl (fun other member => ?_) (by simp) (by simp)⟩
      rcases visited other member with ahead | settled | failed
      · rcases List.mem_cons.mp ahead with rfl | later
        · exact .inr (.inl (.inr ⟨_, _, List.mem_cons_self, by simpa using denied⟩))
        · exact .inl later
      · refine .inr (.inl (settled.imp id ?_))
        rintro ⟨controller, data, known, owns⟩
        exact ⟨controller, data, List.mem_cons_of_mem _ known, owns⟩
      · exact .inr (.inr failed)
    · exact ⟨_, rfl, accounted.goesOn runs rfl visited (by simp)
        (by simp)⟩

theorem Accounted.write {rest : List κ} (accounted : Accounted run state shutdown) (saved : Bool)
    (stands : shutdown.position = .writing key rest) :
    ∃ shutdown', (state.write shutdown key rest saved).shutdown = some shutdown' ∧
      Accounted run (state.write shutdown key rest saved) shutdown' := by
  have runs : shutdown.position ≠ .reported := by simp [stands]
  have moved : PassMove state (.write saved) (state.write shutdown key rest saved) :=
    write_moves rest saved
  have same := moved.run fun _ => by simp
  have visited := accounted.visited
  simp only [stands, ShutdownPosition.unvisited] at visited
  unfold StoppingEntry.write at same ⊢
  simp only at same ⊢
  split at same
  · refine ⟨_, rfl, accounted.goesOn runs same (fun other member => ?_) (by simp) (by simp)⟩
    rcases visited other member with ahead | settled | failed
    · rcases List.mem_cons.mp ahead with rfl | later
      · exact .inr (.inl (.inl (List.mem_cons_self)))
      · exact .inl later
    · exact .inr (.inl (settled.imp (List.mem_cons_of_mem _) id))
    · exact .inr (.inr failed)
  · refine ⟨_, rfl, accounted.goesOn runs same (fun other _ => .inr (.inr ?_)) ?_ ?_⟩ <;>
      simp
  · exact ⟨_, rfl, accounted.fails runs same _⟩

/-- The check lets only a pass go on that found nothing in the way. -/
theorem Accounted.check (accounted : Accounted run state shutdown)
    (stands : shutdown.position = .checking) (readings : κ → ActuatorAssessment) :
    ∃ shutdown', (state.check shutdown readings).shutdown = some shutdown' ∧
      Accounted run (state.check shutdown readings) shutdown' := by
  have runs : shutdown.position ≠ .reported := by simp [stands]
  have unmarked := accounted.unmarked fun at' => absurd at' runs
  have visited := accounted.visited
  simp only [stands, ShutdownPosition.unvisited, List.not_mem_nil, false_or] at visited
  refine ⟨_, rfl, ⟨fun key member => ?_, fun marking => ?_, fun ended clean => ?_,
    fun _ => unmarked⟩⟩
  · rcases visited key member with settled | failed
    · exact .inr (.inl settled)
    · exact .inr (.inr (by simp [failed]))
  · have clean : (shutdown.failures ++ state.hazardFailures ++
        state.unprovenFailures shutdown readings) = [] := by
      by_contra found
      simp only at marking
      rw [if_neg (by simpa using found)] at marking
      cases marking
    refine ⟨clean, state.entry.shared.store, readings, rfl, fun safetyRecordId record found => ?_,
      fun key member awaits => ?_⟩
    · simp only [List.append_eq_nil_iff, hazardFailures, List.map_eq_nil_iff,
        List.filter_eq_nil_iff] at clean
      exact Bool.eq_false_iff.mpr
        (clean.1.2 record (Dict.mem_values_iff_get?.mpr ⟨safetyRecordId, found⟩))
    · simp only [List.append_eq_nil_iff, unprovenFailures, List.map_eq_nil_iff,
        List.filter_eq_nil_iff] at clean
      have proven := clean.2 key member
      have moved : PassMove state (.check readings) (state.check shutdown readings) :=
        check_moves readings
      have same : ((state.check shutdown readings).entry.controllers key).safetyRecordId =
          (state.entry.controllers key).safetyRecordId :=
        congrArg Prod.snd (moved.controllers key).identity
      have awaited : shutdown.awaitsProof (state.entry.controllers key) = true := by
        simpa only [Stage1Shutdown.awaitsProof, same] using awaits
      simpa [awaited] using proven
  · simp only at ended clean
    simp [clean] at ended

omit [DecidableEq κ] in
/-- The marker is the last thing a clean pass writes. -/
theorem Accounted.mark (accounted : Accounted run state shutdown)
    (stands : shutdown.position = .marking) (saved : Bool) :
    ∃ shutdown', (state.mark shutdown saved).shutdown = some shutdown' ∧
      Accounted run (state.mark shutdown saved) shutdown' := by
  have runs : shutdown.position ≠ .reported := by simp [stands]
  have unmarked := accounted.unmarked fun at' => absurd at' runs
  obtain ⟨clean, checked⟩ := accounted.marking stands
  unfold StoppingEntry.mark
  split
  · rename_i store marked
    refine ⟨_, rfl, ⟨fun key member => ?_, fun at' => by simp at at',
      fun _ _ => ⟨checked, ?_⟩, fun failed => absurd clean (failed rfl)⟩⟩
    · have visited := accounted.visited key member
      simp only [stands, ShutdownPosition.unvisited, List.not_mem_nil, false_or] at visited
      exact .inr visited
    · obtain ⟨data, made, verified⟩ := Except.bind_eq_ok_iff.mp marked
      have fields := StoreFields.check_eq_ok_iff.mp made
      unfold saveAndVerify at verified
      split at verified
      · obtain rfl := Except.ok.inj verified
        rw [← unmarked]
        simp only [withStore, goOn, fields]
      · cases verified
  · refine ⟨_, rfl, ?_⟩
    exact accounted.fails runs (by rfl) _
  · refine ⟨_, rfl, ?_⟩
    exact accounted.fails runs (by rfl) _

/-- The second loop decides what each controller is told. -/
theorem Accounted.signal {reading : ActuatorAssessment} (accounted : Accounted run state shutdown)
    (passed : state.pass shutdown (.signal reading) = some next) :
    ∃ shutdown', next.shutdown = some shutdown' ∧ Accounted run next shutdown' := by
  have moved := pass_moves passed
  simp only [StoppingEntry.pass] at passed
  split at passed
  · rename_i rest stands
    have runs : shutdown.position ≠ .reported := by simp [stands]
    obtain rfl := Option.some.inj passed
    have same := moved.run fun _ => by simp
    unfold StoppingEntry.signal at same ⊢
    simp only at same ⊢
    split at same
    · exact ⟨_, rfl, accounted.moves runs same rfl (by simp) (by simp)⟩
    · exact ⟨_, rfl, accounted.moves runs same rfl (by simp) (by simp)⟩
    · exact ⟨_, rfl, accounted.moves runs same rfl (by simp) (by simp)⟩
  · rename_i stands
    obtain rfl := Option.some.inj passed
    exact ⟨_, rfl, accounted.moves (by simp [stands]) rfl rfl (by simp) (by simp)⟩
  · cases passed

/-- The dispatch has returned and the next controller is up. -/
theorem Accounted.dispatched (accounted : Accounted run state shutdown)
    (passed : state.pass shutdown .dispatched = some next) :
    ∃ shutdown', next.shutdown = some shutdown' ∧ Accounted run next shutdown' := by
  have moved := pass_moves passed
  simp only [StoppingEntry.pass] at passed
  split at passed
  · rename_i after rest stands
    have runs : shutdown.position ≠ .reported := by simp [stands]
    obtain ⟨-, passed⟩ := Option.ite_none_right_eq_some.mp passed
    obtain rfl := Option.some.inj passed
    have same := moved.run fun _ => by simp
    cases after with
    | watering | interfered | terminated | preserved =>
      exact ⟨_, rfl, accounted.moves runs same rfl (by simp) (by simp)⟩
  · cases passed

theorem Accounted.converged (accounted : Accounted run state shutdown)
    (passed : state.pass shutdown .converged = some next) :
    ∃ shutdown', next.shutdown = some shutdown' ∧ Accounted run next shutdown' := by
  simp only [StoppingEntry.pass] at passed
  split at passed
  · rename_i stands
    obtain rfl := Option.some.inj passed
    exact ⟨_, rfl, accounted.moves (by simp [stands]) rfl rfl (by simp) (by simp)⟩
  · rename_i stands
    obtain rfl := Option.some.inj passed
    exact ⟨_, rfl, accounted.moves (by simp [stands]) rfl rfl (by simp) (by simp)⟩
  · cases passed

theorem Accounted.visiting (accounted : Accounted run state shutdown)
    (passed : state.pass shutdown .visit = some next) :
    ∃ shutdown', next.shutdown = some shutdown' ∧ Accounted run next shutdown' := by
  simp only [StoppingEntry.pass] at passed
  split at passed
  · rename_i stands
    obtain rfl := Option.some.inj passed
    exact accounted.visit stands
  · rename_i stands
    obtain rfl := Option.some.inj passed
    have visited := accounted.visited
    simp only [stands, ShutdownPosition.unvisited] at visited
    exact ⟨_, rfl, accounted.goesOn (by simp [stands]) rfl visited (by simp) (by simp)⟩
  · cases passed

theorem Accounted.pass (accounted : Accounted run state shutdown)
    (passed : state.pass shutdown label = some next) :
    ∃ shutdown', next.shutdown = some shutdown' ∧ Accounted run next shutdown' := by
  cases label with
  | entry | viewed | transaction | rebased | cancelled | initiate => cases passed
  | signal reading => exact accounted.signal passed
  | dispatched => exact accounted.dispatched passed
  | converged => exact accounted.converged passed
  | visit => exact accounted.visiting passed
  | dispatch sessionId =>
    simp only [StoppingEntry.pass] at passed
    split at passed
    · rename_i stands
      obtain ⟨-, passed⟩ := Option.ite_none_right_eq_some.mp passed
      obtain rfl := Option.some.inj passed
      exact ⟨_, rfl, accounted.moves (by simp [stands]) rfl rfl (by simp) (by simp)⟩
    · cases passed
  | joined error =>
    simp only [StoppingEntry.pass] at passed
    split at passed
    · rename_i stands
      obtain rfl := Option.some.inj passed
      cases error with
      | none | some failure =>
        exact ⟨_, rfl, accounted.moves (by simp [stands]) rfl rfl (by simp) (by simp)⟩
    · cases passed
  | write saved =>
    simp only [StoppingEntry.pass] at passed
    split at passed
    · rename_i stands
      obtain ⟨-, passed⟩ := Option.ite_none_right_eq_some.mp passed
      obtain rfl := Option.some.inj passed
      exact accounted.write saved stands
    · cases passed
  | check readings =>
    simp only [StoppingEntry.pass] at passed
    split at passed
    · rename_i stands
      obtain rfl := Option.some.inj passed
      exact accounted.check stands readings
    · cases passed
  | mark saved =>
    simp only [StoppingEntry.pass] at passed
    split at passed
    · rename_i stands
      obtain rfl := Option.some.inj passed
      exact accounted.mark stands saved
    · cases passed
  | interrupted failure =>
    simp only [StoppingEntry.pass] at passed
    split at passed
    · cases passed
    · rename_i runs
      obtain rfl := Option.some.inj passed
      refine ⟨_, rfl, ?_⟩
      exact accounted.fails runs (by rfl) failure

/-- Without a shutdown the run IDs are the ones there were, with one they are accounted for. -/
structure Marks (run : RunIds) (state : StoppingEntry κ) : Prop where
  before : state.shutdown = none → state.entry.shared.store.run = run
  during : ∀ shutdown, state.shutdown = some shutdown → Accounted run state shutdown

theorem Marks.step (marks : Marks run state) (stepped : state.step label = some next) :
    Marks run next := by
  rcases step_cases stepped with
    ⟨snapshot, error, -, ⟨unbegun, rfl⟩ | ⟨-, rfl⟩⟩ | ⟨shutdown, held, passed⟩ | moved
  · refine ⟨fun closed => (by cases closed), fun shutdown begun => ?_⟩
    obtain rfl := Option.some.inj begun
    exact ⟨fun key member => .inl member, fun at' => (by cases at'), fun at' => (by cases at'),
      fun _ => marks.before unbegun⟩
  · exact marks
  · obtain ⟨shutdown', begun, accounted⟩ := (marks.during shutdown held).pass passed
    refine ⟨fun closed => ?_, fun other held' => ?_⟩
    · rw [begun] at closed
      cases closed
    · obtain rfl := Option.some.inj (begun.symm.trans held')
      exact accounted
  · refine ⟨fun unbegun => ?_, fun shutdown held => ?_⟩
    · exact moved.run.trans (marks.before (moved.keepsShutdown.symm.trans unbegun))
    · exact (marks.during shutdown (moved.keepsShutdown.symm.trans held)).others moved

/-! ## Runs -/

/-- What a clean report stands for. -/
structure Clean (run : RunIds) (state : StoppingEntry κ) (shutdown : Stage1Shutdown κ) : Prop where
  written : ∀ key ∈ shutdown.snapshot, Settled shutdown key
  checked : Checked state shutdown
  marked : state.entry.shared.store.run = ⟨run.activeRunId, run.activeRunId⟩

/-- The verified snapshot is marked clean exactly by a pass with a clean report: every state was
written, or its controller denied the zone, then no flow of the integration was found, and OFF
was proven where it had to be. -/
theorem marksClean_of_run (reached : system.Run (fun _ _ _ => True) start finish)
    (unbegun : start.shutdown = none) :
    (finish.entry.shared.store.run = start.entry.shared.store.run ∧
      ∀ shutdown report, finish.shutdown = some shutdown → shutdown.report = some report →
        report.clean = false) ∨
    ∃ shutdown report, finish.shutdown = some shutdown ∧ shutdown.report = some report ∧
      report.clean = true ∧ Clean start.entry.shared.store.run finish shutdown := by
  have marks : Marks start.entry.shared.store.run finish :=
    reached.preserves ⟨fun _ => rfl, fun _ begun => by simp [unbegun] at begun⟩
      fun _ _ _ marks stepped _ => marks.step stepped
  cases held : finish.shutdown with
  | none => exact .inl ⟨marks.before held, fun _ _ begun => by cases begun⟩
  | some shutdown =>
    have accounted := marks.during shutdown held
    by_cases ended : shutdown.position = .reported ∧ shutdown.failures = []
    · obtain ⟨at', clean⟩ := ended
      obtain ⟨checked, marked⟩ := accounted.marked at' clean
      refine .inr ⟨shutdown, _, rfl, by simp only [Stage1Shutdown.report, at']; rfl, by simp [clean],
        ⟨fun key member => ?_, checked, marked⟩⟩
      have visited := accounted.visited key member
      simpa [at', clean, ShutdownPosition.unvisited] using visited
    · refine .inl ⟨accounted.unmarked fun at' clean => ended ⟨at', clean⟩, ?_⟩
      rintro _ report ⟨⟩ reports
      unfold Stage1Shutdown.report at reports
      split at reports
      · rename_i at'
        obtain rfl := Option.some.inj reports
        simpa using fun clean => ended ⟨at', clean⟩
      · cases reports

/-! ## A clean shutdown -/

/-- The pass finds an ON command in flight, which returns into it; the zone is proven OFF, its
state is written, and the run is marked. -/
def cleanLabels : List (ShutdownLabel Unit) :=
  let reading : ActuatorAssessment := ⟨true, true, false, Bool.and_false true⟩
  let act : ShutdownLabel Unit := .entry (.controller () (.act true) "stop")
  let converges : List (ShutdownLabel Unit) :=
    [.entry (.controller () (.serviceReturned false
        ⟨["reconciliation_admission_clear"], false, reading⟩) "stop"),
      .entry (.controller () (.offServiceReturned 0 reading) "stop"),
      .entry (.controller () (.offDispatch 0) "stop"), act, act, act, act, act, .converged,
      .converged]
  let records : List (ShutdownLabel Unit) :=
    [.joined none, .visit, .write true, .visit, .check (fun _ => reading), .mark true]
  flowingLabels.append (signalledLabels.append (converges.append records))

/-- The shutdown of a zone that waters is clean. -/
theorem marksClean_of_run_flowing :
    ∃ finish shutdown report, system.run quietEntry cleanLabels = some finish ∧
      finish.shutdown = some shutdown ∧ shutdown.report = some report ∧ report.clean = true ∧
      shutdown.watering = ["record-a"] ∧ Clean quietEntry.entry.shared.store.run finish shutdown := by
  obtain ⟨finish, executed, clean⟩ := (Option.any_eq_true _ _).mp
    (show (system.run quietEntry cleanLabels).any (fun finish => finish.shutdown.any fun shutdown =>
      decide (shutdown.watering = ["record-a"]) &&
        shutdown.report.any Stage1ShutdownReport.clean) = true by decide +kernel)
  obtain ⟨shutdown, begun, reports⟩ := (Option.any_eq_true _ _).mp clean
  obtain ⟨watering, reports⟩ := Bool.and_eq_true_iff.mp reports
  obtain ⟨report, reported, clean⟩ := (Option.any_eq_true _ _).mp reports
  rcases marksClean_of_run (LabelledSystem.Run.of_run executed) rfl with ⟨-, unclean⟩ | marked
  · rw [unclean shutdown report begun reported] at clean
    cases clean
  · obtain ⟨other, report, begun', reported, clean, honest⟩ := marked
    obtain rfl := Option.some.inj (begun.symm.trans begun')
    exact ⟨finish, shutdown, report, executed, begun, reported, clean, of_decide_eq_true watering,
      honest⟩

end StoppingEntry

end MoistureLoop
