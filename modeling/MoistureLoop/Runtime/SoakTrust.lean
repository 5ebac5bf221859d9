import MoistureLoop.Runtime.ProcessRuns

/-! # A soak is trusted from one run to the next

A session is adopted only by the run that follows its own, and only if that run marked itself
clean, as long as no process marks a run that is not its own (`trustsSoaks_of_run`).  The
marker copies the run ID of the verified snapshot, and the shutdown path can reach it in a
process whose run could not begin: then it marks the run before, however that one ended. -/

namespace MoistureLoop

/-! ## What the log says -/

def MarkedItself (log : List StoredWrite) (runId : String) : Prop :=
  ∃ write ∈ log, write.writer = runId ∧ write.kind.isMarked = true ∧
    write.data.run = ⟨some runId, some runId⟩

def SessionOwned (log : List StoredWrite) (ids : SessionIds) : Prop :=
  ∃ write ∈ log, write.writer = ids.2 ∧ ids ∈ write.data.sessions

/-- The latest write is the verified rebase of a soak that the run before owned, and that run
marked itself clean. -/
structure SoakTrusted (log : List StoredWrite) (runId safetyRecordId : String) : Prop where
  rebased : ∃ base data rest record history persisted earlier,
    log = ⟨runId, .rebased base, data, true⟩ :: rest ∧
    base.safetyRecords.get? safetyRecordId = some record ∧
    base.zoneHistories.get? record.zoneHistoryId = some history ∧
    history.zoneRuntime.session = some persisted ∧
    data.toStoreFields = { base.toStoreFields with
      storeRevision := base.storeRevision + 1
      zoneHistories := base.zoneHistories.set history.zoneHistoryId (history.withOwnerRun runId) } ∧
    begunRuns rest = runId :: persisted.context.ownerRunId :: earlier ∧
    MarkedItself rest persisted.context.ownerRunId ∧
    SessionOwned rest persisted.ids

def TrustsSoaks (before : Installation) (label : ProcessLabel) (_ : Installation) : Prop :=
  match label, before.process with
  | .adopt _ _ _, some (.running process) => ∀ key creation,
      process.adopting = some (key, creation) →
      SoakTrusted before.log process.runId creation.safetyRecordId
  | _, _ => True

/-- A marker that reaches the disk is about the run of the process that writes it. -/
def MarksOwnRun (before : Installation) (label : ProcessLabel) (_ : Installation) : Prop :=
  match label, before.process with
  | .markCleanShutdown outcome, some process => outcome = .lost ∨
      ∀ runId, process.memory.run.activeRunId = some runId → runId = process.runId
  | _, _ => True

/-! ## Snapshots and the log that explains them -/

variable {log : List StoredWrite} {write : StoredWrite} {runIds : List String}

theorem MarkedItself.push {runId : String} (marked : MarkedItself log runId) :
    MarkedItself (write :: log) runId := by
  obtain ⟨marker, member, rest⟩ := marked
  exact ⟨marker, List.mem_cons_of_mem _ member, rest⟩

theorem SessionOwned.push {ids : SessionIds} (owned : SessionOwned log ids) :
    SessionOwned (write :: log) ids := by
  obtain ⟨own, member, rest⟩ := owned
  exact ⟨own, List.mem_cons_of_mem _ member, rest⟩

/-- Every fact about earlier runs that the snapshot holds was written by these runs. -/
structure Explained (log : List StoredWrite) (data : StoreData) : Prop where
  clean : ∀ runId, data.run.lastCleanShutdownRunId = some runId → MarkedItself log runId
  latest : ∀ runId, data.run = ⟨some runId, some runId⟩ → (begunRuns log).head? = some runId
  sessions : ∀ ids ∈ data.sessions, SessionOwned log ids

/-- The snapshot on the disk is explained, and so are the sessions of every write. -/
structure LogSound (runIds : List String) (log : List StoredWrite) : Prop where
  stored : ∀ write ∈ log.head?, Explained log write.data
  sessions : ∀ write ∈ log, ∀ ids ∈ write.data.sessions, SessionOwned log ids
  writers : ∀ write ∈ log, write.writer ∈ runIds
  active : ∀ write ∈ log, ∀ runId, write.data.run.activeRunId = some runId → runId ∈ runIds

structure WriteSound (runIds : List String) (log : List StoredWrite) (write : StoredWrite) : Prop where
  writer : write.writer ∈ runIds
  active : ∀ runId, write.data.run.activeRunId = some runId → runId ∈ runIds
  clean : ∀ runId, write.data.run.lastCleanShutdownRunId = some runId →
    MarkedItself (write :: log) runId
  latest : ∀ runId, write.data.run = ⟨some runId, some runId⟩ →
    (begunRuns (write :: log)).head? = some runId
  sessions : ∀ ids ∈ write.data.sessions, ids.2 = write.writer ∨ SessionOwned log ids

theorem WriteSound.explained (sound : WriteSound runIds log write) :
    Explained (write :: log) write.data where
  clean := sound.clean
  latest := sound.latest
  sessions ids member := by
    rcases sound.sessions ids member with own | owned
    · exact ⟨write, List.mem_cons_self, own.symm, member⟩
    · exact owned.push

theorem LogSound.push (sound : LogSound runIds log) (writes : WriteSound runIds log write) :
    LogSound runIds (write :: log) where
  stored other member := by
    obtain rfl : write = other := by simpa using member
    exact writes.explained
  sessions other member ids held := by
    rcases List.mem_cons.mp member with rfl | member
    · exact writes.explained.sessions ids held
    · exact (sound.sessions other member ids held).push
  writers other member := by
    rcases List.mem_cons.mp member with rfl | member
    · exact writes.writer
    · exact sound.writers other member
  active other member := by
    rcases List.mem_cons.mp member with rfl | member
    · exact writes.active
    · exact sound.active other member

/-- A snapshot stays explained by every write that begins no run. -/
theorem Explained.push {data : StoreData} (explained : Explained log data)
    (same : begunRuns (write :: log) = begunRuns log) : Explained (write :: log) data where
  clean runId clean := (explained.clean runId clean).push
  latest runId run := same ▸ explained.latest runId run
  sessions ids member := (explained.sessions ids member).push

theorem begunRuns_push (kind : write.kind.isBegun = false ∨ write.verified = false) :
    begunRuns (write :: log) = begunRuns log := by
  have other : (write.kind.isBegun && write.verified) = false := by
    rcases kind with same | same <;> simp [same]
  simp [begunRuns, other]

/-- A loaded snapshot says what the stored one says. -/
theorem Explained.load {data : StoreData} (explained : Explained log data) :
    Explained log data.load where
  clean := explained.clean
  latest := explained.latest
  sessions ids member := explained.sessions ids (by
    rwa [StoreData.load, sessions_persisted] at member)

/-! ## What a controller writes -/

namespace ZoneController

def sessionIds (controller : ZoneController) : Option SessionIds :=
  controller.session.map fun session => (session.sessionId, session.ownerRunId)

/-- The store of a step is the one before, or the next revision of the same run, in which only
the session of the controller is new. -/
structure StoresSession (controller : ZoneController) (before after : StoreData) : Prop where
  run : after.run = before.run
  revision : after = before ∨ after.storeRevision = before.storeRevision + 1
  sessions : ∀ ids ∈ after.sessions, ids ∈ before.sessions ∨ controller.sessionIds = some ids

variable {controller next : ZoneController} {shared shared' : SharedState}
  {label : ControllerLabel} {sessionId : String}

theorem StoresSession.refl (controller : ZoneController) (store : StoreData) :
    StoresSession controller store store :=
  ⟨rfl, .inl rfl, fun _ member => .inl member⟩

theorem runtimeWritten_storesSession :
    StoresSession controller shared.store (controller.runtimeWritten shared) := by
  have rolled := controller.rollDaily_sameDecided shared.calendar shared.now
  unfold runtimeWritten
  cases payload : (controller.rollDaily shared.calendar shared.now).persistPayload shared.store with
  | error err => exact .refl _ _
  | ok data =>
    unfold persistPayload at payload
    split at payload
    · cases payload
    · rename_i record found
      obtain ⟨known, history, faults, -, -, -, -, stored⟩ :=
        updateControllerRuntime_eq_ok_iff.mp payload
      simp only [Except.toOption, Option.getD_some]
      refine ⟨by rw [stored]; rfl, .inr (by rw [stored]; rfl), fun ids member => ?_⟩
      rw [stored] at member
      rcases mem_sessionsOf_set member with own | other
      · refine .inr ?_
        rw [← own]
        simp only [sessionIds, ZoneHistory.sessionIds, ControllerUpdate.history, update,
          rolled.session, Option.map_map]
        rfl
      · exact .inl other

theorem step_storesSession
    (stepped : controller.step shared label sessionId = some (next, shared')) :
    StoresSession controller shared.store shared'.store := by
  have moved := step_storeMove stepped
  cases writes : controller.writesRuntime label with
  | true =>
    rw [moved.runtime writes]
    exact runtimeWritten_storesSession
  | false =>
    rcases moved.blocker writes with same | ⟨record, reason, active, -, stored⟩
    · rw [same]
      exact .refl _ _
    · refine ⟨by rw [stored]; rfl, .inr (by rw [stored]; rfl), fun ids member => .inl ?_⟩
      rw [stored] at member
      exact member

end ZoneController

/-! ## Processes and the log -/

structure ControllerSound (log : List StoredWrite) (runId : String) (controller : ZoneController) :
    Prop where
  own : controller.runId = runId
  session : ∀ ids, controller.sessionIds = some ids → ids.2 = runId ∨ SessionOwned log ids

structure LoadedSound (runIds : List String) (log : List StoredWrite) (runId : String)
    (memory : StoreData) : Prop where
  explained : Explained log memory
  active : ∀ runId, memory.run.activeRunId = some runId → runId ∈ runIds
  foreign : memory.run.activeRunId ≠ some runId
  unmarked : ¬ MarkedItself log runId

/-- A run goes on from the run before it. -/
structure RunningSound (log : List StoredWrite) (process : RunningProcess) : Prop where
  explained : Explained log process.entry.shared.store
  active : process.entry.shared.store.run.activeRunId = some process.runId
  begun : ∃ earlier, begunRuns log = process.runId :: earlier ∧
    ∀ runId, process.previous = ⟨some runId, some runId⟩ →
      earlier.head? = some runId ∧ MarkedItself log runId
  controllers : ∀ key ∈ process.attached,
    ControllerSound log process.runId (process.entry.controllers key)
  adopting : ∀ key creation, process.adopting = some (key, creation) →
    SoakTrusted log process.runId creation.safetyRecordId

def ProcessSound (runIds : List String) (log : List StoredWrite) : Process → Prop
  | .starting runId memory | .refused runId memory => LoadedSound runIds log runId memory
  | .running process => RunningSound log process

def StoredWrite.marksItself (write : StoredWrite) : Prop :=
  write.kind.isMarked = true ∧ write.data.run = ⟨some write.writer, some write.writer⟩

theorem ControllerSound.push {runId : String} {controller : ZoneController}
    (sound : ControllerSound log runId controller) :
    ControllerSound (write :: log) runId controller :=
  ⟨sound.own, fun ids held => (sound.session ids held).imp id SessionOwned.push⟩

theorem LoadedSound.push {runId : String} {memory : StoreData}
    (sound : LoadedSound runIds log runId memory)
    (kind : write.kind.isBegun = false ∨ write.verified = false)
    (unmarked : ¬ write.marksItself) : LoadedSound runIds (write :: log) runId memory where
  explained := sound.explained.push (begunRuns_push kind)
  active := sound.active
  foreign := sound.foreign
  unmarked := by
    rintro ⟨marker, member, writer, marks, run⟩
    rcases List.mem_cons.mp member with rfl | member
    · exact unmarked ⟨marks, writer ▸ run⟩
    · exact sound.unmarked ⟨marker, member, writer, marks, run⟩

/-- A run that adopts nothing goes on after every write that begins no run. -/
theorem RunningSound.push {process : RunningProcess} (sound : RunningSound log process)
    (suspended : process.adopting = none)
    (kind : write.kind.isBegun = false ∨ write.verified = false) :
    RunningSound (write :: log) process where
  explained := sound.explained.push (begunRuns_push kind)
  active := sound.active
  begun := by
    obtain ⟨earlier, begun, previous⟩ := sound.begun
    exact ⟨earlier, (begunRuns_push kind).trans begun, fun runId clean =>
      ⟨(previous runId clean).1, (previous runId clean).2.push⟩⟩
  controllers key member := (sound.controllers key member).push
  adopting key creation adopting := by
    rw [suspended] at adopting
    cases adopting

/-- The run goes on with another snapshot of itself. -/
theorem RunningSound.withStore {process : RunningProcess} {data : StoreData}
    (sound : RunningSound log process) (explained : Explained log data)
    (active : data.run.activeRunId = some process.runId) :
    RunningSound log (process.withStore data) :=
  ⟨explained, active, sound.begun, sound.controllers, sound.adopting⟩

theorem ProcessSound.memory {process : Process} (sound : ProcessSound runIds log process) :
    Explained log process.memory := by
  cases process with
  | starting | refused => exact LoadedSound.explained sound
  | running => exact RunningSound.explained sound

theorem ProcessSound.push {process : Process} (sound : ProcessSound runIds log process)
    (suspended : process.suspended = true)
    (kind : write.kind.isBegun = false ∨ write.verified = false)
    (unmarked : (∃ running, process = .running running) ∨ ¬ write.marksItself) :
    ProcessSound runIds (write :: log) process := by
  have loaded : ∀ runId memory, LoadedSound runIds log runId memory →
      process = .starting runId memory ∨ process = .refused runId memory →
      LoadedSound runIds (write :: log) runId memory := by
    intro runId memory sound same
    refine sound.push kind ?_
    rcases unmarked with ⟨running, other⟩ | unmarked
    · rcases same with same | same <;> simp [same] at other
    · exact unmarked
  cases process with
  | starting runId memory => exact loaded runId memory sound (.inl rfl)
  | refused runId memory => exact loaded runId memory sound (.inr rfl)
  | running process =>
    exact RunningSound.push sound (Option.isNone_iff_eq_none.mp suspended) kind

theorem ProcessSound.remember {process : Process} {data : StoreData} {outcome : WriteOutcome}
    (sound : ProcessSound runIds log process)
    (explained : outcome = .verified → Explained log data)
    (active : data.run.activeRunId = process.memory.run.activeRunId) :
    ProcessSound runIds log (process.remember data outcome) := by
  cases outcome with
  | unverified | lost => exact sound
  | verified =>
    cases process with
    | starting runId memory | refused runId memory =>
      have loaded : LoadedSound runIds log runId memory := sound
      exact ⟨explained rfl, fun runId held => loaded.active runId (active.symm.trans held),
        fun own => loaded.foreign (active.symm.trans own), loaded.unmarked⟩
    | running process =>
      have running : RunningSound log process := sound
      exact running.withStore (explained rfl) (active.trans running.active)

structure InstallationSound (runIds : List String) (log : List StoredWrite) (process : Process) :
    Prop where
  logSound : LogSound runIds log
  known : process.runId ∈ runIds
  processSound : ProcessSound runIds log process

theorem InstallationSound.active {process : Process}
    (sound : InstallationSound runIds log process) {runId : String}
    (held : process.memory.run.activeRunId = some runId) : runId ∈ runIds := by
  cases process with
  | starting | refused => exact LoadedSound.active sound.processSound runId held
  | running process =>
    obtain rfl := Option.some.inj ((RunningSound.active sound.processSound).symm.trans held)
    exact sound.known

/-- A write of the process about its own run and with sessions it knows of. -/
theorem InstallationSound.writeSound {process : Process} {kind : WriteKind} {data : StoreData}
    (sound : InstallationSound runIds log process) (verified : Bool)
    (plain : kind.isBegun = false) (run : data.run = process.memory.run)
    (sessions : ∀ ids ∈ data.sessions, ids.2 = process.runId ∨ SessionOwned log ids) :
    WriteSound runIds log ⟨process.runId, kind, data, verified⟩ where
  writer := sound.known
  active runId held := sound.active (run ▸ held)
  clean runId held := (sound.processSound.memory.clean runId (run ▸ held)).push
  latest runId held := by
    rw [begunRuns_push (.inl plain)]
    exact sound.processSound.memory.latest runId (run ▸ held)
  sessions := sessions

/-- A write of a process, as far as it reaches the disk and is remembered. -/
theorem InstallationSound.written {process : Process} {kind : WriteKind} {data : StoreData}
    (sound : InstallationSound runIds log process) (outcome : WriteOutcome)
    (suspended : process.suspended = true) (plain : kind.isBegun = false)
    (unmarked : outcome = .lost ∨ (∃ running, process = .running running) ∨
      ∀ verified, ¬ (⟨process.runId, kind, data, verified⟩ : StoredWrite).marksItself)
    (active : data.run.activeRunId = process.memory.run.activeRunId)
    (writes : outcome ≠ .lost →
      ∀ verified, WriteSound runIds log ⟨process.runId, kind, data, verified⟩) :
    InstallationSound runIds (MoistureLoop.written log process.runId kind data outcome)
      (process.remember data outcome) := by
  have same : (process.remember data outcome).runId = process.runId := by
    cases outcome <;> cases process <;> rfl
  have pushed : outcome ≠ .lost → ∀ verified,
      LogSound runIds (⟨process.runId, kind, data, verified⟩ :: log) ∧
      ProcessSound runIds (⟨process.runId, kind, data, verified⟩ :: log) process := by
    intro reaches verified
    have own := unmarked.resolve_left reaches
    exact ⟨sound.logSound.push (writes reaches verified), sound.processSound.push suspended (.inl plain)
      (own.imp id fun free => free verified)⟩
  cases outcome with
  | lost => exact ⟨sound.logSound, same ▸ sound.known, sound.processSound⟩
  | unverified =>
    obtain ⟨log', process'⟩ := pushed WriteOutcome.noConfusion false
    exact ⟨log', same ▸ sound.known, process'⟩
  | verified =>
    obtain ⟨log', process'⟩ := pushed WriteOutcome.noConfusion true
    exact ⟨log', same ▸ sound.known, process'.remember
      (fun _ => (writes WriteOutcome.noConfusion true).explained) active⟩

/-! ## Steps of a process -/

variable {installation next : Installation} {process : Process}

structure Installation.Sound (installation : Installation) : Prop where
  logSound : LogSound installation.runIds installation.log
  known : ∀ process, installation.process = some process → process.runId ∈ installation.runIds
  processSound : ∀ process, installation.process = some process →
    ProcessSound installation.runIds installation.log process

theorem Installation.Sound.loaded (sound : installation.Sound)
    (running : installation.process = some process) :
    InstallationSound installation.runIds installation.log process :=
  ⟨sound.logSound, sound.known process running, sound.processSound process running⟩

theorem InstallationSound.sound
    (sound : InstallationSound installation.runIds installation.log process)
    (running : installation.process = some process) : installation.Sound where
  logSound := sound.logSound
  known _ same := Option.some.inj (running.symm.trans same) ▸ sound.known
  processSound _ same := Option.some.inj (running.symm.trans same) ▸ sound.processSound

/-- The process ended, or a new one never came about. -/
theorem Installation.Sound.of_log (log : LogSound installation.runIds installation.log)
    (none' : installation.process = none) : installation.Sound where
  logSound := log
  known process same := by simp [none'] at same
  processSound process same := by simp [none'] at same

theorem toOption_eq_some {α : Type} {result : Except PyError α} {value : α}
    (made : result.toOption = some value) : result = .ok value := by
  cases result with
  | error err => cases made
  | ok value' => exact congrArg Except.ok (Option.some.inj made)

theorem beginNewRun_sound {outcome : WriteOutcome} {now : Instant} {calendar : LocalCalendar}
    (sound : InstallationSound installation.runIds installation.log process)
    (stepped : installation.processStep process (.beginNewRun outcome now calendar) = some next) :
    next.Sound := by
  cases process with
  | refused | running => cases stepped
  | starting runId memory =>
    obtain ⟨data, begun, rfl⟩ := Option.map_eq_some_iff.mp stepped
    have fields := StoreFields.check_eq_ok_iff.mp (toOption_eq_some begun)
    have run : data.run = ⟨some runId, memory.run.lastCleanShutdownRunId⟩ := by rw [fields]
    have same : data.sessions = memory.sessions := by
      simp only [StoreFields.sessions, fields]
    have loaded : LoadedSound installation.runIds installation.log runId memory := sound.processSound
    -- The new run has not marked itself, so the snapshot does not look clean.
    have unclean : ∀ other, data.run ≠ ⟨some other, some other⟩ := by
      intro other clean
      rw [run] at clean
      injection clean with own clean
      obtain rfl := Option.some.inj own
      exact loaded.unmarked (loaded.explained.clean _ clean)
    have writes : ∀ verified, WriteSound installation.runIds installation.log
        ⟨runId, .begun, data, verified⟩ := by
      intro verified
      refine ⟨sound.known, fun other held => ?_, fun other held => ?_, fun other clean =>
        absurd clean (unclean other), fun ids member => .inr ?_⟩
      · simp only [run, Option.some.injEq] at held
        exact held ▸ sound.known
      · simp only [run] at held
        exact (loaded.explained.clean other held).push
      · exact loaded.explained.sessions ids (same ▸ member)
    refine @InstallationSound.sound _ (.begun runId memory data now calendar outcome) ?_ rfl
    cases outcome with
    | lost => exact ⟨sound.logSound, sound.known, loaded⟩
    | unverified =>
      refine ⟨sound.logSound.push (writes false), sound.known, ?_⟩
      exact loaded.push (.inr rfl) fun marks => Bool.false_ne_true marks.1
    | verified =>
      refine ⟨sound.logSound.push (writes true), sound.known, ?_⟩
      refine RunningSound.mk (writes true).explained (by simp [RunningProcess.begin', run])
        ⟨begunRuns installation.log, rfl, fun other clean => ?_⟩ ?_ ?_
      · have previous : memory.run = ⟨some other, some other⟩ := clean
        exact ⟨loaded.explained.latest other previous,
          (loaded.explained.clean other (by rw [previous])).push⟩
      · intro key member
        cases member
      · intro key creation adopting
        cases adopting

theorem markCleanShutdown_sound {outcome : WriteOutcome}
    (sound : InstallationSound installation.runIds installation.log process)
    (own : outcome = .lost ∨
      ∀ runId, process.memory.run.activeRunId = some runId → runId = process.runId)
    (stepped : installation.processStep process (.markCleanShutdown outcome) = some next) :
    next.Sound := by
  simp only [Installation.processStep] at stepped
  obtain ⟨suspended, stepped⟩ := Option.ite_none_right_eq_some.mp stepped
  obtain ⟨data, marked, rfl⟩ := Option.map_eq_some_iff.mp stepped
  have fields := StoreFields.check_eq_ok_iff.mp (toOption_eq_some marked)
  have run : data.run = ⟨process.memory.run.activeRunId, process.memory.run.activeRunId⟩ := by
    rw [fields]
  have same : data.sessions = process.memory.sessions := by
    simp only [StoreFields.sessions, fields]
  -- A process that has not begun has no run of its own in the snapshot.
  have foreign : (∃ running, process = .running running) ∨
      process.memory.run.activeRunId ≠ some process.runId := by
    cases process with
    | starting | refused => exact .inr (LoadedSound.foreign sound.processSound)
    | running running => exact .inl ⟨running, rfl⟩
  have unmarked : (∃ running, process = .running running) ∨
      ∀ verified, ¬ (⟨process.runId, .marked, data, verified⟩ : StoredWrite).marksItself := by
    refine foreign.imp id fun foreign verified marks => ?_
    have marked : data.run = ⟨some process.runId, some process.runId⟩ := marks.2
    rw [run, RunIds.mk.injEq] at marked
    exact foreign marked.1
  have writes : outcome ≠ .lost → ∀ verified, WriteSound installation.runIds installation.log
      ⟨process.runId, .marked, data, verified⟩ := by
    intro reaches verified
    have running : ∀ runId, process.memory.run.activeRunId = some runId →
        runId = process.runId ∧ ∃ running, process = .running running := by
      intro runId held
      obtain rfl := own.resolve_left reaches runId held
      exact ⟨rfl, foreign.resolve_right fun other => other held⟩
    refine ⟨sound.known, fun runId held => sound.active (by rwa [run] at held),
      fun runId held => ?_, fun runId clean => ?_, fun ids member => .inr ?_⟩
    · simp only [run] at held
      obtain ⟨rfl, -⟩ := running runId held
      exact ⟨_, List.mem_cons_self, rfl, rfl, by simp [run, held]⟩
    · simp only [run, RunIds.mk.injEq, and_self] at clean
      obtain ⟨rfl, running, rfl⟩ := running runId clean
      obtain ⟨earlier, begun, -⟩ := RunningSound.begun sound.processSound
      rw [begunRuns_push (.inl rfl), begun]
      rfl
    · exact sound.processSound.memory.sessions ids (same ▸ member)
  exact InstallationSound.sound
    (sound.written outcome suspended rfl (.inr unmarked) (by rw [run]) writes) rfl

theorem transaction_sound {change : EntryTransaction} {outcome : WriteOutcome}
    (sound : InstallationSound installation.runIds installation.log process)
    (stepped : installation.processStep process (.transaction change outcome) = some next) :
    next.Sound := by
  simp only [Installation.processStep] at stepped
  obtain ⟨permitted, stepped⟩ := Option.ite_none_right_eq_some.mp stepped
  obtain ⟨data, changed, rfl⟩ := Option.map_eq_some_iff.mp stepped
  obtain ⟨suspended, restores⟩ := Bool.and_eq_true_iff.mp permitted
  have changed := toOption_eq_some (Option.join_eq_some_iff.mp changed)
  have kept := EntryTransaction.opensNoSession changed
  refine InstallationSound.sound (sound.written outcome suspended rfl
    (.inr (.inr fun verified marks => Bool.false_ne_true marks.1)) (by rw [kept.run])
    fun _ verified => sound.writeSound verified rfl kept.run fun ids member => .inr ?_) rfl
  rcases kept.sessions ids member with known | restored
  · exact sound.processSound.memory.sessions ids known
  · rw [restored, Option.all_some] at restores
    obtain ⟨write, member, held⟩ := List.any_eq_true.mp restores
    exact sound.logSound.sessions write member ids (of_decide_eq_true held)

/-! ## Steps of a running process -/

/-- What a step keeps that is no adoption, and what one that adopts for the run keeps too. -/
theorem ControllerSound.step {runId sessionId : String} {controller after : ZoneController}
    {shared shared' : SharedState} {label : ControllerLabel}
    (sound : ControllerSound log runId controller)
    (own : label.adopts = none ∨ label.adopts = some runId)
    (stepped : controller.step shared label sessionId = some (after, shared')) :
    ControllerSound log runId after := by
  have kept := ZoneController.step_keepsOwner stepped
  refine ⟨kept.runId.trans sound.own, fun ids held => ?_⟩
  obtain ⟨session, left, rfl⟩ := Option.map_eq_some_iff.mp held
  cases kept.session session left with
  | started owner _ => exact .inl (owner.trans sound.own)
  | adopted handed =>
    rcases own with none' | own
    · rw [none'] at handed
      cases handed
    · exact .inl (Option.some.inj (handed.symm.trans own))
  | @kept before had same =>
    refine sound.session _ ?_
    rw [same.sessionId, same.ownerRunId]
    exact congrArg (Option.map fun session : SessionContext =>
      (session.sessionId, session.ownerRunId)) had

/-- A step of the entry in a run: what it stores, and whose sessions its controllers have. -/
structure RunStep (log : List StoredWrite) (process : RunningProcess) (next : Entry String) :
    Prop where
  run : next.shared.store.run = process.entry.shared.store.run
  revision : next.shared.store = process.entry.shared.store ∨
    next.shared.store.storeRevision = process.entry.shared.store.storeRevision + 1
  sessions : ∀ ids ∈ next.shared.store.sessions, ids.2 = process.runId ∨ SessionOwned log ids
  controllers : ∀ key ∈ process.attached,
    ControllerSound log process.runId (next.controllers key)

theorem RunningSound.step {process : RunningProcess} {next : Entry String}
    {label : EntryLabel String} (sound : RunningSound log process)
    (runs : label.runsIn process.attached = true) (stepped : process.entry.step label = some next) :
    RunStep log process next := by
  have same : next.controllers = process.entry.controllers →
      next.shared.store = process.entry.shared.store → RunStep log process next := by
    intro controllers store
    refine ⟨by rw [store], .inl store, fun ids member => .inr ?_, fun key member => ?_⟩
    · rw [store] at member
      exact sound.explained.sessions ids member
    · rw [controllers]
      exact sound.controllers key member
  cases label with
  | tick | admission =>
    obtain rfl := Option.some.inj stepped
    exact same rfl rfl
  | storeChanged => cases runs
  | controller key label sessionId =>
    obtain ⟨⟨after, shared⟩, moved, rfl⟩ := Option.map_eq_some_iff.mp stepped
    obtain ⟨attached, foreign⟩ := Bool.and_eq_true_iff.mp runs
    have owned := sound.controllers key (of_decide_eq_true attached)
    have stores := ZoneController.step_storesSession moved
    refine ⟨stores.run, stores.revision, fun ids member => ?_, fun other member => ?_⟩
    · rcases stores.sessions ids member with known | own
      · exact .inr (sound.explained.sessions ids known)
      · exact owned.session ids own
    · show ControllerSound log process.runId
        (Function.update process.entry.controllers key after other)
      by_cases here : other = key
      · subst here
        rw [Function.update_self]
        exact owned.step (.inl (Option.isNone_iff_eq_none.mp foreign)) moved
      · rw [Function.update_of_ne here]
        exact sound.controllers other member

theorem EntryLabel.runsIn_accepted (label : EntryLabel String) (attached : List String) :
    label.accepted.runsIn attached = label.runsIn attached := by
  cases label with
  | controller key label sessionId => cases label <;> rfl
  | tick | admission | storeChanged => rfl

/-- The run goes on with another entry. -/
theorem RunningSound.withEntry {process : RunningProcess} {next : Entry String}
    (sound : RunningSound log process) (explained : Explained log next.shared.store)
    (run : next.shared.store.run = process.entry.shared.store.run)
    (controllers : ∀ key ∈ process.attached,
      ControllerSound log process.runId (next.controllers key)) :
    RunningSound log { process with entry := next } :=
  ⟨explained, by rw [run]; exact sound.active, sound.begun, controllers, sound.adopting⟩

theorem entry_sound {label : EntryLabel String} {landed : Bool}
    (sound : InstallationSound installation.runIds installation.log process)
    (stepped : installation.processStep process (.entry label landed) = some next) :
    next.Sound := by
  cases process with
  | starting | refused => cases stepped
  | running process =>
    simp only [Installation.processStep] at stepped
    obtain ⟨permitted, stepped⟩ := Option.ite_none_right_eq_some.mp stepped
    obtain ⟨entry, moved, rfl⟩ := Option.map_eq_some_iff.mp stepped
    obtain ⟨suspended, runs⟩ := Bool.and_eq_true_iff.mp permitted
    have suspended := Option.isNone_iff_eq_none.mp suspended
    have running : RunningSound installation.log process := sound.processSound
    have step := running.step runs moved
    refine @InstallationSound.sound _ (.running { process with entry := entry }) ?_ rfl
    -- Every write that a step can make is one of the run.
    have writes : ∀ after : Entry String, RunStep installation.log process after →
        ∀ verified, WriteSound installation.runIds installation.log
          ⟨process.runId, .other, after.shared.store, verified⟩ :=
      fun after step verified => sound.writeSound verified rfl step.run step.sessions
    by_cases changed : entry.shared.store.storeRevision = process.entry.shared.store.storeRevision
    · have unchanged : entry.shared.store = process.entry.shared.store := by
        rcases step.revision with same | next
        · exact same
        · omega
      have kept : RunningSound installation.log { process with entry := entry } :=
        running.withEntry (unchanged ▸ running.explained) step.run step.controllers
      have silent : InstallationSound installation.runIds installation.log
          (.running { process with entry := entry }) := ⟨sound.logSound, sound.known, kept⟩
      simp only [RunningProcess.stores, Entry.writes, changed, if_true, List.isEmpty_nil,
        Bool.true_and]
      split
      · split
        · rename_i accepted taken
          split
          · exact silent
          · have step' := running.step ((label.runsIn_accepted _).trans runs) taken
            exact ⟨sound.logSound.push (writes accepted step' false), sound.known,
              kept.push suspended (.inl rfl)⟩
        · exact silent
      · exact silent
    · simp only [RunningProcess.stores, Entry.writes, changed, if_false, List.isEmpty_cons,
        Bool.false_and, Bool.false_eq_true]
      refine ⟨sound.logSound.push (writes entry step true), sound.known, ?_⟩
      exact (running.push suspended (.inl rfl)).withEntry (writes entry step true).explained
        step.run fun key member => (step.controllers key member).push

/-- An attached controller has a session that the snapshot holds. -/
theorem RunningSound.attach {process attached : RunningProcess} {key : String}
    {creation : Creation} {assessment : ActuatorAssessment} {observation : MoistureObservation}
    (sound : RunningSound log process)
    (attaching : process.attach key creation assessment observation = some attached) :
    RunningSound log attached ∧ attached.runId = process.runId ∧ key ∈ attached.attached := by
  unfold RunningProcess.attach at attaching
  split at attaching
  · cases attaching
  · rename_i record found
    obtain ⟨controller, made, rfl⟩ := Option.map_eq_some_iff.mp attaching
    obtain ⟨record', history, -, -, held, -, restored⟩ :=
      ZoneController.attach_eq_ok_iff.mp (toOption_eq_some made)
    refine ⟨⟨sound.explained, sound.active, sound.begun, fun other member => ?_, sound.adopting⟩,
      rfl, List.mem_cons_self⟩
    show ControllerSound log process.runId
      (Function.update process.entry.controllers key controller other)
    by_cases here : other = key
    · subst here
      rw [Function.update_self]
      refine ⟨by rw [restored]; rfl, fun ids own => .inr ?_⟩
      rw [restored] at own
      obtain ⟨session, opened, rfl⟩ := Option.map_eq_some_iff.mp own
      obtain ⟨persisted, stored, rfl⟩ := Option.map_eq_some_iff.mp opened
      exact sound.explained.sessions _ (mem_sessionsOf_of_get? held stored)
    · rw [Function.update_of_ne here]
      exact sound.controllers other ((List.mem_cons.mp member).resolve_left here)

theorem attach_sound {key : String} {creation : Creation} {assessment : ActuatorAssessment}
    {observation : MoistureObservation}
    (sound : InstallationSound installation.runIds installation.log process)
    (stepped : installation.processStep process (.attach key creation assessment observation) =
      some next) : next.Sound := by
  cases process with
  | starting | refused => cases stepped
  | running process =>
    simp only [Installation.processStep] at stepped
    obtain ⟨-, stepped⟩ := Option.ite_none_right_eq_some.mp stepped
    obtain ⟨attached, attaching, rfl⟩ := Option.map_eq_some_iff.mp stepped
    obtain ⟨running, own, -⟩ := RunningSound.attach sound.processSound attaching
    exact @InstallationSound.sound _ (.running attached)
      ⟨sound.logSound, show attached.runId ∈ _ from own ▸ sound.known, running⟩ rfl

/-! ## Rebase and adoption -/

/-- The session that a record would adopt, with the record and the history. -/
theorem soakingSession_eq_some {data : StoreFields} {safetyRecordId : String}
    {persisted : PersistedSession} (found : data.soakingSession safetyRecordId = some persisted) :
    ∃ record history, data.safetyRecords.get? safetyRecordId = some record ∧
      data.zoneHistories.get? record.zoneHistoryId = some history ∧
      history.zoneRuntime.session = some persisted := by
  unfold StoreFields.soakingSession at found
  split at found
  · cases found
  · rename_i record present
    split at found
    · cases found
    · rename_i history held
      exact ⟨record, history, present, held, (Option.ite_none_right_eq_some.mp found).2⟩

/-- A rebase changes whose the session is, and nothing else. -/
theorem rebaseSoakingOwnerForRecord_eq_ok {data next : StoreData} {safetyRecordId runId : String}
    {record : SafetyRecord} {history : ZoneHistory}
    (rebased : rebaseSoakingOwnerForRecord data safetyRecordId runId = .ok next)
    (found : data.safetyRecords.get? safetyRecordId = some record)
    (held : data.zoneHistories.get? record.zoneHistoryId = some history) :
    next.toStoreFields = { data.toStoreFields with
      storeRevision := data.storeRevision + 1
      zoneHistories := data.zoneHistories.set history.zoneHistoryId
        (history.withOwnerRun runId) } := by
  simp only [rebaseSoakingOwnerForRecord, found, held] at rebased
  split at rebased
  · cases rebased
  · exact StoreFields.check_eq_ok_iff.mp rebased

theorem rebase_sound {key : String} {creation : Creation} {assessment : ActuatorAssessment}
    {outcome : WriteOutcome}
    (sound : InstallationSound installation.runIds installation.log process)
    (stepped : installation.processStep process (.rebase key creation assessment outcome) =
      some next) : next.Sound := by
  cases process with
  | starting | refused => cases stepped
  | running process =>
    simp only [Installation.processStep] at stepped
    obtain ⟨permitted, stepped⟩ := Option.ite_none_right_eq_some.mp stepped
    obtain ⟨data, rebased, rfl⟩ := Option.map_eq_some_iff.mp stepped
    obtain ⟨suspended, trusts⟩ := Bool.and_eq_true_iff.mp permitted
    have suspended := Option.isNone_iff_eq_none.mp suspended
    obtain ⟨persisted, soaking, trusted⟩ := (Option.any_eq_true _ _).mp trusts
    obtain ⟨record, history, found, held, opened⟩ := soakingSession_eq_some soaking
    have running : RunningSound installation.log process := sound.processSound
    have fields := rebaseSoakingOwnerForRecord_eq_ok (toOption_eq_some rebased) found held
    -- The trusted session is of the run before, which marked itself clean.
    have previous : process.previous =
        ⟨some persisted.context.ownerRunId, some persisted.context.ownerRunId⟩ := by
      simp only [soakTrusted, RunIds.previousRunWasClean, Bool.and_eq_true,
        decide_eq_true_eq] at trusted
      obtain ⟨⟨⟨⟨⟨⟨-, clean⟩, owner⟩, -⟩, -⟩, -⟩, -⟩ := trusted
      generalize process.previous = run at clean owner ⊢
      obtain ⟨active, lastClean⟩ := run
      simp only at clean owner
      rw [← clean, ← owner]
    -- It is the latest run that began before this one.
    obtain ⟨earlier, begun, before⟩ := running.begun
    obtain ⟨first, marked⟩ := before _ previous
    obtain ⟨earlier, rfl⟩ : ∃ rest, earlier = persisted.context.ownerRunId :: rest := by
      cases earlier with
      | nil => cases first
      | cons run rest => exact ⟨rest, congrArg (· :: rest) (Option.some.inj first)⟩
    have run : data.run = process.entry.shared.store.run := by rw [fields]
    -- The write changes the owner of this session only.
    have sessions : ∀ ids ∈ data.sessions, ids.2 = process.runId ∨
        SessionOwned installation.log ids := by
      intro ids member
      rw [fields] at member
      rcases mem_sessionsOf_set member with own | other
      · refine .inl ?_
        simp only [ZoneHistory.sessionIds, ZoneHistory.withOwnerRun, opened, Option.map_some,
          PersistedSession.ids, Option.some.injEq] at own
        rw [← own]
      · exact .inr (running.explained.sessions ids other)
    have writes : ∀ verified, WriteSound installation.runIds installation.log
        ⟨process.runId, .rebased process.entry.shared.store, data, verified⟩ :=
      fun verified => sound.writeSound verified rfl run sessions
    refine @InstallationSound.sound _ (.running (process.rebased data key creation outcome)) ?_ rfl
    cases outcome with
    | lost => exact ⟨sound.logSound, sound.known, running⟩
    | unverified =>
      exact ⟨sound.logSound.push (writes false), sound.known, running.push suspended (.inl rfl)⟩
    | verified =>
      refine ⟨sound.logSound.push (writes true), sound.known, ?_⟩
      have kept := (running.push suspended (.inl rfl)).withStore (writes true).explained
        (by rw [run]; exact running.active)
      refine RunningSound.mk kept.explained kept.active kept.begun kept.controllers ?_
      intro other creation' adopting
      obtain ⟨-, rfl⟩ := Prod.mk.inj (Option.some.inj adopting)
      exact ⟨⟨_, _, _, record, history, persisted, earlier, rfl, found, held, opened, fields, begun,
        marked, running.explained.sessions _ (mem_sessionsOf_of_get? held opened)⟩⟩

theorem adopt_sound {assessment : ActuatorAssessment} {observation : MoistureObservation}
    {sessionId : String}
    (sound : InstallationSound installation.runIds installation.log process)
    (stepped : installation.processStep process (.adopt assessment observation sessionId) =
      some next) : next.Sound := by
  cases process with
  | starting | refused => cases stepped
  | running process =>
    simp only [Installation.processStep] at stepped
    split at stepped
    · rename_i key creation adopting
      obtain ⟨attached, attaching, moved⟩ := Option.bind_eq_some_iff.mp stepped
      obtain ⟨entry, taken, rfl⟩ := Option.map_eq_some_iff.mp moved
      obtain ⟨running, own, member⟩ := RunningSound.attach sound.processSound attaching
      obtain ⟨⟨after, shared⟩, dispatched, rfl⟩ := Option.map_eq_some_iff.mp taken
      have unchanged : shared = attached.entry.shared := by
        simp only [ZoneController.step] at dispatched
        exact (Prod.mk.inj (Option.some.inj (Option.ite_none_right_eq_some.mp dispatched).2)).2.symm
      subst unchanged
      refine @InstallationSound.sound _ (.running { attached with
          entry := { attached.entry with
            controllers := Function.update attached.entry.controllers key after }
          adopting := none }) ⟨sound.logSound, show attached.runId ∈ _ from own ▸ sound.known,
        RunningSound.mk running.explained running.active running.begun ?_ ?_⟩ rfl
      · intro other listed
        show ControllerSound installation.log attached.runId
          (Function.update attached.entry.controllers key after other)
        by_cases here : other = key
        · subst here
          rw [Function.update_self]
          exact (running.controllers other member).step (.inr (by rw [own]; rfl)) dispatched
        · rw [Function.update_of_ne here]
          exact running.controllers other listed
      · intro other creation' adopting'
        cases adopting'
    · cases stepped

/-! ## Runs -/

theorem start_sound {runId : String} (sound : installation.Sound)
    (idle : installation.process = none)
    (stepped : installation.step (.start runId) = some next) : next.Sound := by
  simp only [Installation.step, idle] at stepped
  cases logged : installation.log with
  | nil => simp [logged] at stepped
  | cons write rest =>
    have listed : write ∈ installation.log := by simp [logged]
    have first : write ∈ installation.log.head? := by simp [logged]
    simp only [logged] at stepped
    obtain ⟨fresh, same⟩ := Option.ite_none_left_eq_some.mp stepped
    obtain rfl := Option.some.inj same
    have grown : LogSound (runId :: installation.runIds) installation.log :=
      ⟨sound.logSound.stored, sound.logSound.sessions,
        fun write member => List.mem_cons_of_mem _ (sound.logSound.writers write member),
        fun write member other held =>
          List.mem_cons_of_mem _ (sound.logSound.active write member other held)⟩
    rw [← logged]
    refine @InstallationSound.sound _ (.starting runId write.data.load)
      ⟨grown, List.mem_cons_self, LoadedSound.mk ?_ ?_ ?_ ?_⟩ rfl
    · exact (sound.logSound.stored write first).load
    · exact fun other held =>
        List.mem_cons_of_mem _ (sound.logSound.active write listed other held)
    · exact fun own => fresh (sound.logSound.active write listed runId own)
    · rintro ⟨marker, member, writer, -⟩
      exact fresh (writer ▸ sound.logSound.writers marker member)

theorem firstInitialize_sound {runId : String} {data : StoreData} {outcome : WriteOutcome}
    (sound : installation.Sound) (idle : installation.process = none)
    (stepped : installation.step (.firstInitialize runId data outcome) = some next) : next.Sound := by
  simp only [Installation.step, idle] at stepped
  obtain ⟨⟨fresh, closed, run⟩, same⟩ := Option.ite_none_right_eq_some.mp stepped
  obtain rfl := Option.some.inj same
  have grown : LogSound (runId :: installation.runIds) installation.log :=
    ⟨sound.logSound.stored, sound.logSound.sessions,
      fun write member => List.mem_cons_of_mem _ (sound.logSound.writers write member),
      fun write member other held =>
        List.mem_cons_of_mem _ (sound.logSound.active write member other held)⟩
  have writes : ∀ verified, WriteSound (runId :: installation.runIds) installation.log
      ⟨runId, .initialized, data, verified⟩ := by
    intro verified
    refine ⟨List.mem_cons_self, ?_, ?_, ?_, ?_⟩
    · intro other held
      simp [run] at held
    · intro other held
      simp [run] at held
    · intro other held
      simp [run] at held
    · intro ids member
      rw [show (StoredWrite.mk runId .initialized data verified).data.sessions = [] from closed]
        at member
      cases member
  cases outcome with
  | lost => exact .of_log grown rfl
  | unverified => exact .of_log (grown.push (writes false)) rfl
  | verified =>
    refine @InstallationSound.sound _ (.starting runId data)
      ⟨grown.push (writes true), List.mem_cons_self, LoadedSound.mk (writes true).explained ?_ ?_ ?_⟩
      rfl
    · intro other held
      simp [run] at held
    · simp [run]
    · rintro ⟨marker, member, writer, marks, -⟩
      rcases List.mem_cons.mp member with rfl | member
      · cases marks
      · exact fresh (writer ▸ sound.logSound.writers marker member)

theorem Installation.Sound.step {label : ProcessLabel} (sound : installation.Sound)
    (guarded : MarksOwnRun installation label next)
    (stepped : Installation.system.step installation label = some next) : next.Sound := by
  change installation.step label = some next at stepped
  cases held : installation.process with
  | none =>
    cases label with
    | start => exact start_sound sound held stepped
    | firstInitialize => exact firstInitialize_sound sound held stepped
    | _ =>
      simp only [Installation.step, held] at stepped
      cases stepped
  | some process =>
    have loaded := sound.loaded held
    simp only [Installation.step, held] at stepped
    cases label with
    | start | firstInitialize => cases stepped
    | beginNewRun => exact beginNewRun_sound loaded stepped
    | markCleanShutdown outcome =>
      simp only [MarksOwnRun, held] at guarded
      exact markCleanShutdown_sound loaded guarded stepped
    | transaction => exact transaction_sound loaded stepped
    | entry => exact entry_sound loaded stepped
    | attach => exact attach_sound loaded stepped
    | rebase => exact rebase_sound loaded stepped
    | adopt => exact adopt_sound loaded stepped
    | crash =>
      obtain rfl := Option.some.inj stepped
      exact .of_log loaded.logSound rfl

/-- In every sequence of processes in which each marks only its own run clean, a soak is
adopted only from the run before, which marked itself clean, and right after the verified
write that hands the session over. -/
theorem trustsSoaks_of_run {start before next : Installation} {label : ProcessLabel}
    (idle : start.process = none) (explained : LogSound start.runIds start.log)
    (reached : Installation.system.Run MarksOwnRun start before)
    (stepped : Installation.system.step before label = some next) :
    TrustsSoaks before label next := by
  have kept : before.Sound := reached.preserves (.of_log explained idle)
    fun _ _ _ sound stepped guarded => sound.step guarded stepped
  unfold TrustsSoaks
  split
  · rename_i process running
    exact fun key creation adopting =>
      RunningSound.adopting (kept.processSound _ running) key creation adopting
  · trivial

/-! ## A soak of zone `bed` -/

/-- The soak of an AUTO session that the first run started. -/
def soakingSession : SessionContext where
  sessionId := "session"
  ownerRunId := "run-1"
  configFingerprint := "fingerprint"
  mode := .auto
  startedAtUtc := 100
  pulseIntentAtUtc := some 100
  offConfirmedAtUtc := some 200
  soakEndsAtUtc := some 500
  recheckNotBeforeUtc := some 500
  recheckGraceDeadlineAtUtc := some 800

/-- The store of the first run, in which zone `bed` is idle or soaks. -/
def firstRunFields (lastClean : Option String) (session : Option SessionContext) : StoreFields :=
  { sampleStore.toStoreFields with
    run := ⟨some "run-1", lastClean⟩
    zoneHistories := sampleStore.zoneHistories.set "history-a"
      { sampleHistory "history-a" "bed" with
        zoneRuntime := { (sampleHistory "history-a" "bed").zoneRuntime with
          state := if session.isSome then .soaking else .idle
          session := session.map (PersistedSession.mk "record-a") } } }

/-- The first run began and left zone `bed` soaking. -/
def crashedLog : List StoredWrite :=
  [⟨"run-1", .other, ⟨firstRunFields none (some soakingSession), by decide +kernel⟩, true⟩,
    ⟨"run-1", .begun, ⟨firstRunFields none none, by decide +kernel⟩, true⟩]

/-- It then stopped in an orderly way. -/
def cleanLog : List StoredWrite :=
  ⟨"run-1", .marked, ⟨firstRunFields (some "run-1") (some soakingSession), by decide +kernel⟩, true⟩ ::
    crashedLog

theorem crashedLog_sound : LogSound ["run-1"] crashedLog := by
  have owned : SessionOwned crashedLog ("session", "run-1") :=
    ⟨_, List.mem_cons_self, rfl, by decide +kernel⟩
  have sessions : ∀ write ∈ crashedLog, ∀ ids ∈ write.data.sessions, ids = ("session", "run-1") := by
    decide +kernel
  have runs : ∀ write ∈ crashedLog,
      write.writer = "run-1" ∧ write.data.run = ⟨some "run-1", none⟩ := by
    decide +kernel
  refine ⟨fun write first => ?_, fun write member ids held => sessions write member ids held ▸ owned,
    fun write member => by simp [runs write member], fun write member runId held => ?_⟩
  · have member : write ∈ crashedLog := List.mem_of_mem_head? first
    refine ⟨fun runId clean => ?_, fun runId clean => ?_,
      fun ids held => sessions write member ids held ▸ owned⟩
    · rw [(runs write member).2] at clean
      cases clean
    · rw [(runs write member).2] at clean
      cases clean
  · rw [(runs write member).2] at held
    simp [← Option.some.inj held]

theorem cleanLog_sound : LogSound ["run-1"] cleanLog := by
  refine crashedLog_sound.push ⟨by decide, fun runId held => ?_, fun runId held => ?_,
    fun runId held => ?_, fun ids member => .inl ?_⟩
  · obtain rfl : "run-1" = runId := Option.some.inj held
    exact List.mem_cons_self
  · obtain rfl : "run-1" = runId := Option.some.inj held
    exact ⟨_, List.mem_cons_self, rfl, rfl, rfl⟩
  · obtain rfl : "run-1" = runId := Option.some.inj (congrArg RunIds.activeRunId held)
    decide +kernel
  · have only : ∀ ids ∈ (firstRunFields (some "run-1") (some soakingSession)).sessions,
        ids.2 = "run-1" := by decide +kernel
    exact only ids member

def bedCreation : Creation where
  zoneId := "bed"
  safetyRecordId := "record-a"
  configFingerprint := "fingerprint"
  config := sampleConfig "sensor.soil" "switch.a"
  today := 0

/-- A run begins, finds the switch off and hands the soak over to itself. -/
def adoptingLabels (runId : String) : List ProcessLabel :=
  [.start runId, .beginNewRun .verified 300 utcCalendar,
    .rebase "bed" bedCreation sampleController.assessment .verified]

def adoptLabel : ProcessLabel :=
  .adopt sampleController.assessment sampleController.observation ""

theorem adopting_of_step {before next : Installation} {assessment : ActuatorAssessment}
    {observation : MoistureObservation} {sessionId : String}
    (stepped : Installation.system.step before (.adopt assessment observation sessionId) =
      some next) : ∃ process key creation, before.process = some (.running process) ∧
      process.adopting = some (key, creation) := by
  change before.step (.adopt assessment observation sessionId) = some next at stepped
  cases held : before.process with
  | none => simp [Installation.step, held] at stepped
  | some process =>
    simp only [Installation.step, held] at stepped
    cases process with
    | starting | refused => cases stepped
    | running process =>
      simp only [Installation.processStep] at stepped
      split at stepped
      · rename_i key creation adopting
        exact ⟨process, key, creation, rfl, adopting⟩
      · cases stepped

def marksOwnRunCheck (before : Installation) (label : ProcessLabel) (_ : Installation) : Bool :=
  match label, before.process with
  | .markCleanShutdown outcome, some process => outcome = .lost ||
      process.memory.run.activeRunId.all (· = process.runId)
  | _, _ => true

theorem marksOwnRun_of_check {before next : Installation} {label : ProcessLabel}
    (checked : marksOwnRunCheck before label next = true) : MarksOwnRun before label next := by
  unfold marksOwnRunCheck at checked
  unfold MarksOwnRun
  split at checked
  · simp only [Bool.or_eq_true, decide_eq_true_eq, Option.all_eq_true] at checked
    exact checked
  · trivial

/-- The second run cannot begin and crashes.  The third rebases the soak, at first without a
verified write, adopts it, marks itself and crashes; the fourth rebases it again. -/
def inheritingLabels : List ProcessLabel :=
  [.start "run-2", .beginNewRun .lost 300 utcCalendar, .crash,
    .start "run-3", .beginNewRun .verified 300 utcCalendar,
    .rebase "bed" bedCreation sampleController.assessment .unverified,
    .rebase "bed" bedCreation sampleController.assessment .verified, adoptLabel,
    .markCleanShutdown .verified, .crash] ++ adoptingLabels "run-4"

/-- The fourth run adopts the soak that the third had adopted from the first. -/
theorem trustsSoaks_of_run_clean : ∃ before next : Installation,
    Installation.system.step before adoptLabel = some next ∧
      begunRuns before.log = ["run-4", "run-3", "run-1"] ∧
      TrustsSoaks before adoptLabel next := by
  have given : ((Installation.system.runWhile marksOwnRunCheck ⟨cleanLog, ["run-1"], none⟩
      inheritingLabels).any fun before => (Installation.system.step before adoptLabel).isSome &&
        decide (begunRuns before.log = ["run-4", "run-3", "run-1"])) = true := by
    decide +kernel
  obtain ⟨before, executed, given⟩ := (Option.any_eq_true _ _).mp given
  simp only [Bool.and_eq_true, decide_eq_true_eq] at given
  obtain ⟨adopts, begun⟩ := given
  obtain ⟨next, stepped⟩ := Option.isSome_iff_exists.mp adopts
  exact ⟨before, next, stepped, begun, trustsSoaks_of_run rfl cleanLog_sound
    (LabelledSystem.Run.of_runWhile (fun _ _ _ => marksOwnRun_of_check) executed) stepped⟩

/-- A process that could not begin its run is shut down and marks the run before, which had
crashed with a soak; the next process adopts it. -/
theorem not_trustsSoaks_crashed : ¬ ∀ (start before next : Installation) (label : ProcessLabel),
    start.process = none → LogSound start.runIds start.log →
      Installation.system.Run (fun _ _ _ => True) start before →
      Installation.system.step before label = some next → TrustsSoaks before label next := by
  intro claimed
  have given : ((Installation.system.run ⟨crashedLog, ["run-1"], none⟩
      ([.start "run-2", .beginNewRun .lost 300 utcCalendar, .markCleanShutdown .verified, .crash] ++
        adoptingLabels "run-3")).any
      fun before => (Installation.system.step before adoptLabel).isSome &&
        decide (begunRuns before.log.tail = ["run-3", "run-1"]) &&
        before.log.all fun write => !(write.kind.isMarked && write.writer = "run-1")) = true := by
    decide +kernel
  obtain ⟨before, executed, given⟩ := (Option.any_eq_true _ _).mp given
  simp only [Bool.and_eq_true, decide_eq_true_eq] at given
  obtain ⟨⟨adopts, begun⟩, unmarked⟩ := given
  obtain ⟨next, stepped⟩ := Option.isSome_iff_exists.mp adopts
  obtain ⟨process, key, creation, running, adopting⟩ := adopting_of_step stepped
  have trusts := claimed _ before next adoptLabel rfl crashedLog_sound
    (LabelledSystem.Run.of_run executed) stepped
  simp only [TrustsSoaks, adoptLabel, running] at trusts
  obtain ⟨base, data, rest, record, history, persisted, earlier, logged, -, -, -, -, runs,
    ⟨marker, member, writer, marks, -⟩, -⟩ := (trusts key creation adopting).rebased
  rw [logged, List.tail_cons, runs] at begun
  injection begun with _ begun
  injection begun with owner _
  have listed : marker ∈ before.log := logged ▸ List.mem_cons_of_mem _ member
  have other := List.all_eq_true.mp unmarked marker listed
  simp [marks, writer, owner] at other

end MoistureLoop
