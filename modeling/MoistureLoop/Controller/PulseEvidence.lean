import MoistureLoop.Controller.PulseIntent
import MoistureLoop.Controller.SingleWriter

/-! # The store knows of a pulse before the valve does

While a dispatched pulse may be flowing, the store holds it as an open pulse of its record:
the write of the intent comes before the request of ON, and no later write of the controller
takes it away while the pulse is open. -/

open MoistureLoop.Action

namespace MoistureLoop

/-! ## Open pulses of the store -/

def StoreFields.RecordsOpen (data : StoreFields) (safetyRecordId : String) (pulse : PulseId) :
    Prop :=
  ∃ zoneHistoryId history persisted, data.zoneHistories.get? zoneHistoryId = some history ∧
    history.zoneRuntime.session = some persisted ∧
    persisted.ownerSafetyRecordId = safetyRecordId ∧ persisted.context.pulse = pulse ∧
    persisted.context.openPulse = true

namespace ZoneController

variable {controller next : ZoneController} {shared shared' : SharedState}
  {label : ControllerLabel} {sessionId : String} {pulse : PulseId}

/-! ## What the store holds -/

/-- A write of the runtime records the open pulse of the session it stores. -/
theorem recordsOpen_of_persistPayload {session : SessionContext} {store : StoreData}
    (held : controller.session = some session) (open' : session.openPulse = true)
    (persisted : controller.persistPayload shared.store = .ok store) :
    store.toStoreFields.RecordsOpen controller.safetyRecordId session.pulse := by
  unfold persistPayload at persisted
  split at persisted
  · cases persisted
  · rename_i record found
    obtain ⟨record', history, faults, -, -, -, -, stored⟩ :=
      updateControllerRuntime_eq_ok_iff.mp persisted
    rw [stored]
    refine ⟨controller.zoneHistoryId, _, ⟨controller.safetyRecordId, session⟩,
      Dict.get?_set_self _ _ _, ?_, rfl, rfl, open'⟩
    simp [ControllerUpdate.history, update, held]

/-- A write of the runtime is a new revision. -/
theorem storeRevision_of_persistPayload {data store : StoreData}
    (persisted : controller.persistPayload data = .ok store) :
    store.storeRevision = data.storeRevision + 1 := by
  unfold persistPayload at persisted
  split at persisted
  · cases persisted
  · obtain ⟨record, history, faults, -, -, -, -, stored⟩ :=
      updateControllerRuntime_eq_ok_iff.mp persisted
    rw [stored]
    rfl

/-- The write of a controller, if it can be built, records its open pulse. -/
theorem recordsOpen_runtimeWritten {session : SessionContext}
    (held : controller.session = some session) (open' : session.openPulse = true)
    (recorded : shared.store.toStoreFields.RecordsOpen controller.safetyRecordId session.pulse) :
    (controller.runtimeWritten shared).toStoreFields.RecordsOpen controller.safetyRecordId
      session.pulse := by
  have rolled := controller.rollDaily_sameDecided shared.calendar shared.now
  unfold runtimeWritten
  cases written : (controller.rollDaily shared.calendar shared.now).persistPayload shared.store with
  | error err => exact recorded
  | ok store =>
    have records := recordsOpen_of_persistPayload (rolled.session.trans held) open' written
    rwa [rolled.safetyRecordId] at records

/-- A change of the blockers leaves the histories. -/
theorem recordsOpen_setRecord {data : StoreFields} {safetyRecordId owner : String}
    {record : SafetyRecord} (recorded : data.RecordsOpen owner pulse) :
    (data.setRecord safetyRecordId record).RecordsOpen owner pulse := recorded

theorem StoreMove.recordsOpen {session : SessionContext} {store : StoreData}
    (moved : StoreMove controller shared label store) (held : controller.session = some session)
    (open' : session.openPulse = true)
    (recorded : shared.store.toStoreFields.RecordsOpen controller.safetyRecordId session.pulse) :
    store.toStoreFields.RecordsOpen controller.safetyRecordId session.pulse := by
  cases writes : controller.writesRuntime label with
  | true =>
    rw [moved.runtime writes]
    exact recordsOpen_runtimeWritten held open' recorded
  | false =>
    rcases moved.blocker writes with same | ⟨record, reason, active, -, stored⟩
    · rwa [same]
    · rw [stored]
      exact recordsOpen_setRecord recorded

/-! ## The invariant -/

/-- What the store holds of the pulse that is open. -/
structure Backed (controller : ZoneController) (data : StoreFields) : Prop where
  /-- No pulse of the session was dispatched in a later cycle. -/
  counted : ∀ session, controller.session = some session → ∀ pulse ∈ controller.called,
    pulse.sessionId = session.sessionId → pulse.cycle ≤ session.cycle
  /-- A pulse whose ON command was dispatched is recorded. -/
  dispatched : ∀ session, controller.session = some session → session.openPulse = true →
    session.pulse ∈ controller.called →
    data.RecordsOpen controller.safetyRecordId session.pulse
  /-- So is one that ON is requested for, or about to be, its intent written. -/
  requested : ∀ session, controller.session = some session → session.openPulse = true →
    controller.state = .watering → (controller.awaitsOn = true ∨ turnOn ∈ controller.ahead) →
    intentAhead controller.ahead = false →
    data.RecordsOpen controller.safetyRecordId session.pulse

/-- The other snapshot holds the open pulse of the controller too, if this one does. -/
def Lasts (controller : ZoneController) (data data' : StoreFields) : Prop :=
  ∀ session, controller.session = some session → session.openPulse = true →
    data.RecordsOpen controller.safetyRecordId session.pulse →
    data'.RecordsOpen controller.safetyRecordId session.pulse

theorem Backed.mono {data data' : StoreFields} (backed : controller.Backed data)
    (lasts : controller.Lasts data data') : controller.Backed data' :=
  ⟨backed.counted, fun session held open' mine =>
      lasts session held open' (backed.dispatched session held open' mine),
    fun session held open' watering asks unintended =>
      lasts session held open' (backed.requested session held open' watering asks unintended)⟩

/-- A start does not fail with an earlier request left behind. -/
def StartBuilds (controller : ZoneController) (shared : SharedState) (label : ControllerLabel) :
    Prop :=
  ∀ saved tag rest, label = .act saved → controller.ahead = persistState tag :: rest →
    turnOn ∈ rest → controller.awaitsOn = true → controller.PayloadBuilds shared

/-- No ON command was dispatched in a session with the ID. -/
def IsUnused (controller : ZoneController) (sessionId : String) : Prop :=
  ∀ pulse ∈ controller.called, pulse.sessionId ≠ sessionId

/-- The ID and the cycle of the pulse that `next` begins are not those of a dispatched one. -/
theorem Backed.begins {data : StoreFields} (backed : controller.Backed data)
    (begins : controller.BeginsFrom sessionId next) (unused : controller.IsUnused sessionId)
    (resting : turnOn ∉ controller.ahead) (starting : turnOn ∈ next.ahead)
    {after : SessionContext} (held : next.session = some after) :
    ∀ pulse ∈ controller.called, pulse.sessionId = after.sessionId → pulse.cycle < after.cycle := by
  intro pulse mine same
  rcases begins resting starting after held with drawn | ⟨before, had, continued, later⟩
  · exact absurd (same.trans drawn) (unused pulse mine)
  · exact (backed.counted before had pulse mine (same.trans continued.symm)).trans_lt later

/-- What a step that does not act makes of the invariant, dispatches apart. -/
theorem Backed.goesOn {data data' : StoreFields} (backed : controller.Backed data)
    (goes : GoesOn controller next) (begins : controller.BeginsFrom sessionId next)
    (unused : controller.IsUnused sessionId)
    (record : next.safetyRecordId = controller.safetyRecordId)
    (called : next.called = controller.called)
    (awaits : next.awaitsOn = true → controller.awaitsOn = true)
    (lasts : controller.Lasts data data') :
    next.Backed data' := by
  cases goes with
  | began resting intends =>
    have later : ∀ after, next.session = some after → ∀ pulse ∈ controller.called,
        pulse.sessionId = after.sessionId → pulse.cycle < after.cycle := fun _ held =>
      backed.begins begins unused resting (turnOn_of_intentAhead intends) held
    refine ⟨fun after held pulse mine same => ?_, fun after held _ mine => ?_,
      fun _ _ _ _ _ notIntended => ?_⟩
    · exact (later after held pulse (called ▸ mine) same).le
    · exact absurd (later after held after.pulse (called ▸ mine) rfl) (lt_irrefl _)
    · rw [intends] at notIntended
      cases notIntended
  | kept kept same silent =>
    refine ⟨fun after held other mine same => ?_, fun after held open' mine => ?_,
      fun after held open' watering asks notIntended => ?_⟩
    · obtain ⟨before, had, pulse, -⟩ := kept.session after held
      have counted := backed.counted before had other (called ▸ mine)
        (same.trans (congrArg PulseId.sessionId pulse).symm)
      exact counted.trans (congrArg PulseId.cycle pulse).le
    · obtain ⟨before, had, pulse, opened⟩ := kept.session after held
      rw [record, ← pulse]
      rw [called, ← pulse] at mine
      exact lasts before had (opened open') (backed.dispatched before had (opened open') mine)
    · obtain ⟨before, had, pulse, opened⟩ := kept.session after held
      rw [record, ← pulse]
      refine lasts before had (opened open') (backed.requested before had (opened open')
        (kept.watering watering) ?_ ?_)
      · refine asks.imp awaits fun starting => ?_
        by_contra resting
        exact silent resting starting
      · by_cases starting : turnOn ∈ controller.ahead
        · rwa [same starting] at notIntended
        · exact Bool.eq_false_iff.mpr fun intends => starting (turnOn_of_intentAhead intends)

/-- The gate dispatches ON for a pulse that the store holds. -/
theorem Backed.dispatchOn {data : StoreFields} {session : SessionContext} {now : Instant}
    {reading : ActuatorAssessment} (backed : controller.Backed data)
    (held : controller.session = some session) (watering : controller.state = .watering)
    (acquiring : controller.sessionTask = some .acquiring) (unlocked : controller.locked = none) :
    (controller.dispatchOn now session reading).Backed data := by
  have nothing := ahead_of_unlocked unlocked
  have recorded : session.openPulse = true →
      data.RecordsOpen controller.safetyRecordId session.pulse := fun open' =>
    backed.requested session held open' watering (.inl (by simp [awaitsOn, acquiring]))
      (by rw [nothing]; rfl)
  refine ⟨fun after left pulse mine same => ?_, fun after left open' _ => ?_,
    fun after left open' _ _ _ => ?_⟩ <;> obtain rfl := Option.some.inj (held.symm.trans left)
  · rcases List.mem_cons.mp mine with rfl | mine
    · exact le_rfl
    · exact backed.counted session held pulse mine same
  · exact recorded open'
  · exact recorded open'

/-! ## The next action of an application -/

theorem act_pulseKept {saved : Bool} {decision : Decision} {input : TransitionInput}
    {applier : Applier} {rest : List Action} :
    PulseKept controller (controller.act shared saved decision input applier rest).1 := by
  cases rest with
  | nil =>
    exact (controller.applyFinish_sameCore.trans
      (afterApply_sameCore controller.applyFinish applier false).1).pulseKept
  | cons action rest =>
    obtain ⟨state', session', -⟩ := controller.applyAction_decided shared action saved
    simp only [act]
    generalize controller.applyAction shared action saved = result at state' session' ⊢
    obtain ⟨⟨acted, shared'⟩, raised⟩ := result
    have kept : PulseKept controller acted := .of_same session' state'
    cases raised with
    | none =>
      refine kept.trans (.of_same ?_ ?_) <;> cases action <;> rfl
    | some err =>
      cases err with
      | storeWriteVerification _ =>
        exact (kept.trans handlePersistFailure_pulseKept).trans
          (afterApply_sameCore _ applier false).1.pulseKept
      | _ => exact kept.trans (afterApply_sameCore acted applier true).1.pulseKept

/-- A `persistState` that goes through is a new revision, and it records the open pulse. -/
theorem recordsOpen_of_persistState {saved : Bool} {tag : String} {session : SessionContext}
    (held : controller.session = some session) (open' : session.openPulse = true)
    (done : (controller.applyAction shared (persistState tag) saved).2 = none) :
    (controller.applyAction shared (persistState tag) saved).1.2.store.storeRevision ≠
        shared.store.storeRevision ∧
      (controller.applyAction shared (persistState tag) saved).1.2.store.toStoreFields.RecordsOpen
        controller.safetyRecordId session.pulse := by
  have rolled := controller.rollDaily_sameDecided shared.calendar shared.now
  simp only [applyAction] at done ⊢
  split at done
  · cases done
  · rename_i store persisted
    unfold persist at persisted
    split at persisted
    · cases persisted
    · rename_i data built
      have records := recordsOpen_of_persistPayload (rolled.session.trans held) open' built
      have revision := storeRevision_of_persistPayload built
      simp only [saveAndVerify] at persisted
      split at persisted
      · obtain rfl := Except.ok.inj persisted
        rw [rolled.safetyRecordId] at records
        exact ⟨by simp [revision], records⟩
      · cases persisted

/-- An exception other than a failed write comes from a write with no start ahead of it, or
finds no request of ON. -/
theorem intentAhead_of_escaped {saved : Bool} {action : Action} {rest : List Action}
    {err : PyError} (ahead : controller.ahead = action :: rest)
    (known : controller.safetyRecordId ∈ shared.store.safetyRecords.keys)
    (builds : controller.StartBuilds shared (.act saved))
    (raised : (controller.applyAction shared action saved).2 = some err)
    (escaped : ∀ message, err ≠ .storeWriteVerification message)
    (awaits : controller.awaitsOn = true) : intentAhead (action :: rest) = false := by
  have fails : (∀ tag, action = persistState tag → controller.PayloadBuilds shared) → False := by
    intro built
    obtain ⟨message, same⟩ := applyAction_error known built raised
    exact escaped message same
  cases action with
  | persistState tag =>
    refine decide_eq_false fun starting => fails fun _ _ => ?_
    exact builds saved tag rest rfl ahead starting awaits
  | _ => exact absurd (fun _ same => by cases same) fails

/-- The next action of an application writes the intent before it requests ON: what asks for
ON was recorded before, or is recorded now. -/
theorem act_requested {saved : Bool} {decision : Decision} {input : TransitionInput}
    {applier : Applier} {rest : List Action} {session : SessionContext} {data : StoreFields}
    {store : StoreData} (backed : controller.Backed data)
    (ahead : controller.ahead = rest)
    (known : controller.safetyRecordId ∈ shared.store.safetyRecords.keys)
    (builds : controller.StartBuilds shared (.act saved))
    (held : controller.session = some session) (open' : session.openPulse = true)
    (state : controller.state = .watering)
    (stored : (controller.act shared saved decision input applier rest).2.store = store)
    (watering : (controller.act shared saved decision input applier rest).1.state = .watering)
    (asks : (controller.act shared saved decision input applier rest).1.awaitsOn = true ∨
      turnOn ∈ (controller.act shared saved decision input applier rest).1.ahead)
    (unintended :
      intentAhead (controller.act shared saved decision input applier rest).1.ahead = false) :
    data.RecordsOpen controller.safetyRecordId session.pulse ∨
      (store.storeRevision ≠ shared.store.storeRevision ∧
        store.toStoreFields.RecordsOpen controller.safetyRecordId session.pulse) := by
  have before : (controller.awaitsOn = true ∨ turnOn ∈ controller.ahead) →
      intentAhead rest = false → data.RecordsOpen controller.safetyRecordId session.pulse :=
    fun asked unintended => backed.requested session held open' state asked (ahead ▸ unintended)
  cases rest with
  -- The application ends: nothing is asked for that was not before.
  | nil =>
    have silent : (controller.applyFinish.afterApply applier false).ahead = [] :=
      (afterApply_sameCore _ applier false).2
    refine .inl (before (asks.imp (act_asksNoMore (by simp)).awaitsOn fun starting => ?_) rfl)
    exact absurd (show turnOn ∈ (controller.applyFinish.afterApply applier false).ahead
      from starting) (by simp [silent])
  | cons action rest =>
    by_cases on : action = turnOn
    · -- TurnOn itself: its intent was written before.
      subst on
      exact .inl (before (.inr (by simp [ahead])) rfl)
    · have asked := @act_asksNoMore controller shared saved decision input (action :: rest) applier
        (by simpa using on)
      cases raised : (controller.applyAction shared action saved).2 with
      | none =>
        -- The action returned, and the application goes on behind it.
        have next : (controller.act shared saved decision input applier (action :: rest)).1.ahead =
            rest ∧ (controller.act shared saved decision input applier (action :: rest)).2 =
              (controller.applyAction shared action saved).1.2 := by
          simp only [act]
          generalize controller.applyAction shared action saved = result at raised
          obtain ⟨⟨acted, shared'⟩, answer⟩ := result
          obtain rfl : answer = none := raised
          exact ⟨rfl, rfl⟩
        rw [next.1] at asks unintended
        have earlier := before (asks.imp asked.awaitsOn fun starting =>
          ahead ▸ List.mem_cons_of_mem _ starting)
        cases action with
        | turnOn => exact absurd rfl on
        | persistState tag =>
          rw [← stored, next.2]
          -- This write is the intent.
          exact .inr (recordsOpen_of_persistState held open' raised)
        | _ => exact .inl (earlier unintended)
      | some err =>
        by_cases verification : ∃ message, err = .storeWriteVerification message
        · obtain ⟨message, rfl⟩ := verification
          -- A failed verification leaves WATERING.
          exfalso
          simp only [act] at watering
          generalize controller.applyAction shared action saved = result at raised watering
          obtain ⟨⟨acted, shared'⟩, answer⟩ := result
          obtain rfl : answer = some (.storeWriteVerification message) := raised
          have state' := (afterApply_sameCore acted.handlePersistFailure applier false).1.state
          rw [acted.handlePersistFailure_spec.1] at state'
          exact absurd (state'.symm.trans watering) (by simp)
        · -- Any other error ends the application; what awaits ON did so before.
          have silent :
              (controller.act shared saved decision input applier (action :: rest)).1.ahead =
                [] := by
            simp only [act]
            generalize controller.applyAction shared action saved = result at raised
            obtain ⟨⟨acted, shared'⟩, answer⟩ := result
            obtain rfl : answer = some err := raised
            cases err with
            | storeWriteVerification message => exact absurd ⟨message, rfl⟩ verification
            | _ => exact (afterApply_sameCore acted applier true).2
          rw [silent] at asks
          have awaits := asked.awaitsOn (asks.resolve_right (by simp))
          exact .inl (before (.inl awaits) (intentAhead_of_escaped ahead known builds raised
            (fun message same => verification ⟨message, same⟩) awaits))

/-- A step of the controller keeps what a snapshot holds of its pulse: the snapshot lasts, and
holds what the step writes. -/
theorem Backed.step_stored {data data' : StoreFields} (backed : controller.Backed data)
    (known : controller.safetyRecordId ∈ shared.store.safetyRecords.keys)
    (builds : controller.StartBuilds shared label) (unused : controller.IsUnused sessionId)
    (stepped : controller.step shared label sessionId = some (next, shared'))
    (lasts : controller.Lasts data data')
    (writes : shared'.store.storeRevision ≠ shared.store.storeRevision →
      controller.Lasts shared'.store.toStoreFields data') : next.Backed data' := by
  have record : next.safetyRecordId = controller.safetyRecordId :=
    congrArg Prod.snd (step_identity stepped)
  by_cases calls : next.dispatches = controller.dispatches
  · have called : next.called = controller.called := congrArg (List.map Prod.fst) calls
    by_cases acts : ∃ saved, label = .act saved
    · obtain ⟨saved, rfl⟩ := acts
      simp only [ZoneController.step] at stepped
      split at stepped
      · rename_i decision input rest applier locked
        have ahead : controller.ahead = rest := by simp [ZoneController.ahead, locked]
        have acted := Option.some.inj stepped
        have kept := @act_pulseKept controller shared saved decision input applier rest
        rw [acted] at kept
        refine ⟨fun after held other mine same => ?_, fun after held open' mine => ?_,
          fun after held open' watering asks unintended => ?_⟩
        · obtain ⟨before, had, pulse, -⟩ := kept.session after held
          have counted := backed.counted before had other (called ▸ mine)
            (same.trans (congrArg PulseId.sessionId pulse).symm)
          exact counted.trans (congrArg PulseId.cycle pulse).le
        · obtain ⟨before, had, pulse, opened⟩ := kept.session after held
          rw [record, ← pulse]
          rw [called, ← pulse] at mine
          exact lasts before had (opened open') (backed.dispatched before had (opened open') mine)
        · obtain ⟨before, had, pulse, opened⟩ := kept.session after held
          rw [record, ← pulse]
          have written := @act_requested controller shared saved decision input applier rest before
            data shared'.store backed ahead known builds had (opened open') (kept.watering watering)
          rw [acted] at written
          rcases written rfl watering asks unintended with earlier | ⟨revision, now⟩
          · exact lasts before had (opened open') earlier
          · exact writes revision before had (opened open') now
      · cases stepped
    · have notAct : ∀ saved, label ≠ .act saved := fun saved same => acts ⟨saved, same⟩
      refine backed.goesOn (step_goesOn stepped notAct) (step_beginsFrom stepped notAct) unused
        record called (fun awaits => ?_) lasts
      rcases step_asks stepped fun saved same => absurd same (notAct saved) with
        asks | ⟨requested, -⟩
      · exact asks.awaitsOn awaits
      · simp [awaitsOn, requested]
  · obtain ⟨authority, session, rfl, held, task, unlocked, authorized, rfl⟩ :=
      step_dispatchOn stepped calls
    have watering : controller.state = .watering := by
      simp only [OnAuthorization.authorized, evaluateOnAuthority, List.isEmpty_iff,
        List.append_eq_nil_iff, ite_eq_left_iff, List.cons_ne_nil, imp_false, not_not,
        finalOnGuardFailures] at authorized
      exact authorized.1.2.1
    exact (backed.mono lasts).dispatchOn held watering task unlocked

theorem Backed.step (backed : controller.Backed shared.store.toStoreFields)
    (known : controller.safetyRecordId ∈ shared.store.safetyRecords.keys)
    (builds : controller.StartBuilds shared label) (unused : controller.IsUnused sessionId)
    (stepped : controller.step shared label sessionId = some (next, shared')) :
    next.Backed shared'.store.toStoreFields :=
  backed.step_stored known builds unused stepped
    (fun _ held open' => (step_storeMove stepped).recordsOpen held open') fun _ _ _ _ => id

end ZoneController

end MoistureLoop
