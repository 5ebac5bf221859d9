import MoistureLoop.Controller.SlotRequests
import MoistureLoop.StateMachine.Rows

/-! # Moves of the slot bookkeeping

What the refinement of the slot bookkeeping rests on: a decision with a RequestSlot executes
nothing else, the operations of the manager that the shared state makes, and the bookkeeping
steps of one zone. -/

open MoistureLoop.Action

namespace MoistureLoop

namespace StateMachine

variable {inp : TransitionInput} {decision : Decision}

/-! ## Decisions that wait for the slot -/

theorem requestSlot_notMem_finalize {session : SessionContext} {reason : CompletionReason}
    {offAt : Instant} {extraActions : List Action} (extra : requestSlot ∉ extraActions)
    (decided : finalizeWatering inp session reason offAt extraActions = .ok decision) :
    requestSlot ∉ decision.actions := by
  simp only [finalizeWatering] at decided
  split at decided
  · obtain rfl := Except.ok.inj decided
    simp only [finalizeManualComplete]
    split
    · simpa using extra
    · split <;> simpa using extra
  · have cleared : requestSlot ∉
        (postDestination inp (closeRuntime session offAt reason) reason).2.2.1 := by
      unfold postDestination
      split
      · simp
      · split
        · simp
        · split
          · simp
          · simp only
            split
            · simp
            · split <;> simp
            · simp
    split at decided
    · cases decided
    · obtain rfl := Except.ok.inj decided
      simpa using ⟨extra, cleared⟩

/-- A slot wait executes nothing else. -/
theorem Row.actions_of_requestSlot (row : Row inp decision)
    (requests : requestSlot ∈ decision.actions) : decision.actions = [requestSlot] := by
  cases row with
  | slotWait | soakSlotWait => rfl
  | passive _ timers =>
    -- Bookkeeping rows move timers only.
    exact absurd (timers _ requests) (by simp [isTimerAction])
  | autoStart _ _ _ _ _ _ started | nextPulse _ _ _ _ _ _ _ _ started =>
    unfold startAutoPulse at started
    repeat' split at started
    all_goals first
      | (obtain rfl := Except.ok.inj started; simp at requests)
      | cases started
  | manualStart _ _ passed granted started =>
    simp only [StateMachine.manualStart, passed, granted, Bool.not_true, Bool.false_eq_true,
      if_false] at started
    split at started
    · cases started
    · obtain rfl := Except.ok.inj started
      simp at requests
  | closeAccounting _ _ closed =>
    unfold closeOpenAccounting at closed
    repeat' split at closed
    all_goals first
      | (obtain rfl := Except.ok.inj closed; simp at requests)
      | cases closed
  | onConfirmed _ _ _ confirmed =>
    unfold onConfirmedRow at confirmed
    split at confirmed
    · cases confirmed
    · obtain rfl := Except.ok.inj confirmed
      simp only [List.mem_append] at requests
      split at requests <;> simp at requests
  | commit _ _ _ _ =>
    simp only [commitTermination] at requests
    split at requests <;> simp at requests
  | finalize _ _ evidence finalized =>
    refine absurd requests (requestSlot_notMem_finalize ?_ finalized)
    cases evidence <;> simp
  | recoveredOff _ _ _ finalized =>
    exact absurd requests (requestSlot_notMem_finalize (by simp) finalized)
  | soakAdopted _ _ _ _ adopted =>
    simp only [startupPersistedSoakingRow, if_true] at adopted
    split at adopted
    case h_4 =>
      obtain rfl := Except.ok.inj adopted
      simp only [List.mem_append] at requests
      repeat' split at requests
      all_goals simp at requests
    all_goals cases adopted
  | soakTerminated _ _ _ _ terminated =>
    obtain rfl := Except.ok.inj terminated
    simp only [List.mem_append] at requests
    split at requests <;> simp at requests
  | integrityLost => simp [StateMachine.integrityLost] at requests
  | configurationInvalid => simp [configurationInvalidRow] at requests
  | pulseOff => simp [pulseOffToSoaking] at requests
  | offNotConfirmed => simp [offNotConfirmedRow] at requests
  | soakExternal => simp [finalizeSoakingExternal] at requests
  | soakOffNotConfirmed => simp [soakingOffNotConfirmed] at requests
  | soakCompletion => simp [finalizeSoakingCompletion] at requests
  | soakFault => simp [finalizeSoakingFault] at requests
  | soakCancel => simp [finalizeSoakingCancel] at requests
  | _ => simp at requests

theorem duration_of_requestSlot {requestedS : Option Seconds}
    (decided : decide inp = .ok decision) (requests : requestSlot ∈ decision.actions)
    (event : inp.event = .manualStartRequested requestedS) : requestedS.isSome = true := by
  cases requestedS with
  | some requested => rfl
  | none =>
    simp only [decide, event] at decided
    cases state : inp.state <;> simp only [state] at decided
    case idle | fault =>
      simp only [decideIdle, decideFault, event, StateMachine.manualStart] at decided
      obtain rfl := Except.ok.inj decided
      simp at requests
    case disabled =>
      simp only [decideDisabled, event] at decided
      obtain rfl := Except.ok.inj decided
      simp at requests
    case watering =>
      cases held : inp.session <;> simp only [decideWatering, event, held] at decided
      · cases decided
      · obtain rfl := Except.ok.inj decided
        simp at requests
    case soaking =>
      cases held : inp.session <;> simp only [decideSoaking, event, held] at decided
      · cases decided
      · split at decided <;>
        · obtain rfl := Except.ok.inj decided
          simp [noOp] at requests


end StateMachine

/-! ## Operations of the manager -/

namespace SlotManager

/-- Some operations of the manager lead from one state of it to another while all zones rest,
and no write is pending at either end. -/
def Manages (before after : SlotManager) : Prop :=
  ∀ state : SlotClaims, state.run = { slots := before } → ∃ state',
    SlotClaims.system.Run (fun _ _ _ => True) state state' ∧ state'.run = { slots := after } ∧
      state'.zones = state.zones

variable {before after third : SlotManager}

theorem Manages.refl (slots : SlotManager) : slots.Manages slots :=
  fun state same => ⟨state, .refl, same, rfl⟩

/-- One operation that needs no write. -/
theorem Manages.of_step (label : ClaimLabel) {operation : SlotLabel}
    (answers : ∀ state : SlotClaims, state.step label = state.manage operation)
    (operates : SlotRun.step { slots := before } operation = some { slots := after }) :
    before.Manages after := by
  intro state same
  have stepped : state.step label = some { state with run := { slots := after } } := by
    rw [answers, SlotClaims.manage, same, operates]
    rfl
  exact ⟨_, .step label .refl stepped trivial, rfl, rfl⟩

theorem Manages.of_write (label : ClaimLabel) {operation : SlotLabel} {pending : SlotRun}
    (saved : Bool) (answers : ∀ state : SlotClaims, state.step label = state.manage operation)
    (begins : SlotRun.step { slots := before } operation = some pending)
    (ends : pending.step (.persisted saved) = some { slots := after }) :
    before.Manages after := by
  intro state same
  have begun : state.step label = some { state with run := pending } := by
    rw [answers, SlotClaims.manage, same, begins]
    rfl
  have ended : SlotClaims.step { state with run := pending } (.persisted saved) =
      some { state with run := { slots := after } } := by
    simp only [SlotClaims.step, SlotClaims.manage, ends]
    rfl
  exact ⟨_, .step (.persisted saved) (.step label .refl begun trivial) ended trivial, rfl, rfl⟩

theorem beginAdd_of_addLive (slots : SlotManager) (key : BlockerKey) :
    (slots.beginAdd key).finishAdd key = { slots.addLive key with
      unpersistedBlockers := slots.unpersistedBlockers.filter fun other => other ≠ key } := by
  have same : (slots.unpersistedBlockers.insert key).filter (fun other => decide (other ≠ key)) =
      slots.unpersistedBlockers.filter fun other => decide (other ≠ key) := by
    by_cases known : key ∈ slots.unpersistedBlockers
    · rw [List.insert_of_mem known]
    · rw [List.insert_of_not_mem known]
      simp
  simp only [beginAdd, finishAdd, same]

end SlotManager

namespace SharedState

theorem addBlocker_manages (shared : SharedState) (key : BlockerKey) (saved : Bool) :
    shared.slots.Manages (shared.addBlocker key saved).1.slots := by
  unfold addBlocker
  split
  · exact .refl _
  · rename_i fresh
    have begins : SlotRun.step { slots := shared.slots } (.addBlocker key) =
        some { slots := shared.slots.beginAdd key, suspended := some (.adding key) } := by
      simp [SlotRun.step, fresh]
    simp only
    split
    · exact .of_write (.addBlocker key) false (fun _ => rfl) begins rfl
    · exact .of_write (.addBlocker key) true (fun _ => rfl) begins
        (congrArg (fun slots : SlotManager => some ({ slots := slots } : SlotRun))
          (shared.slots.beginAdd_of_addLive key))

theorem removeBlocker_manages (shared : SharedState) (key : BlockerKey) (saved : Bool) :
    shared.slots.Manages (shared.removeBlocker key saved).1.slots := by
  unfold removeBlocker
  split
  · exact .refl _
  · rename_i live
    have begins : SlotRun.step { slots := shared.slots } (.removeBlocker key) =
        some { slots := shared.slots, suspended := some (.removing key) } := by
      simp [SlotRun.step, not_not.mp live]
    split
    · exact .refl _
    · exact .of_write (.removeBlocker key) true (fun _ => rfl) begins rfl

end SharedState

/-! ## Moves of one zone -/

namespace ZoneSlot

/-- The bookkeeping has a run that moves this zone and the manager as given, and no other
zone. -/
def Moves (zoneId : String) (zone : ZoneSlot) (slots : SlotManager) (zone' : ZoneSlot)
    (slots' : SlotManager) : Prop :=
  ∀ state : SlotClaims, state.run = { slots := slots } → state.zones zoneId = zone →
    ∃ state', SlotClaims.system.Run (fun _ _ _ => True) state state' ∧
      state'.run = { slots := slots' } ∧
      state'.zones = Function.update state.zones zoneId zone'

variable {zoneId : String} {zone zone' zone'' : ZoneSlot} {slots slots' slots'' : SlotManager}

theorem Moves.refl (zoneId : String) (zone : ZoneSlot) (slots : SlotManager) :
    Moves zoneId zone slots zone slots := by
  intro state run held
  refine ⟨state, .refl, run, ?_⟩
  rw [← held, Function.update_eq_self]

theorem Moves.trans (left : Moves zoneId zone slots zone' slots')
    (right : Moves zoneId zone' slots' zone'' slots'') :
    Moves zoneId zone slots zone'' slots'' := by
  intro state run held
  obtain ⟨middle, first, run', zones⟩ := left state run held
  obtain ⟨state', second, run'', zones'⟩ :=
    right middle run' (by rw [zones, Function.update_self])
  exact ⟨state', first.trans second, run'', by rw [zones', zones, Function.update_idem]⟩

/-- The zone moves while the manager rests. -/
theorem Moves.of_setZone (label : ClaimLabel)
    (answers : ∀ state : SlotClaims, state.run = { slots := slots } →
      state.zones zoneId = zone → state.step label = some (state.setZone zoneId zone')) :
    Moves zoneId zone slots zone' slots := by
  intro state run held
  exact ⟨_, .step label .refl (answers state run held) trivial, run, rfl⟩

/-- The zone moves together with an operation of the manager. -/
theorem Moves.of_operate (label : ClaimLabel) (operation : SlotLabel)
    (answers : ∀ state : SlotClaims, state.run = { slots := slots } →
      state.zones zoneId = zone → state.step label = state.operate operation zoneId zone')
    (operates : SlotRun.step { slots := slots } operation = some { slots := slots' }) :
    Moves zoneId zone slots zone' slots' := by
  intro state run held
  have stepped : state.step label =
      some { state.setZone zoneId zone' with run := { slots := slots' } } := by
    rw [answers state run held, SlotClaims.operate, run, operates]
    rfl
  exact ⟨_, .step label .refl stepped trivial, rfl, rfl⟩

/-- The zone rests while the manager acts. -/
theorem Moves.of_manages (manages : slots.Manages slots') :
    Moves zoneId zone slots zone slots' := by
  intro state run held
  obtain ⟨state', ran, run', zones⟩ := manages state run
  refine ⟨state', ran, run', ?_⟩
  rw [zones, ← held, Function.update_eq_self]

theorem Moves.releaseSlot (settled : zone.withdrawing = false) :
    Moves zoneId zone slots zone ((slots.release zoneId).cancelRequest zoneId) := by
  have released : Moves zoneId zone slots { zone with withdrawing := true }
      (slots.release zoneId) :=
    .of_operate (.releaseSlot zoneId) (.release zoneId)
      (fun state _ held => by rw [SlotClaims.step, held]) rfl
  refine released.trans (.of_operate (.withdrawSlot zoneId) (.cancelRequest zoneId)
    (fun state _ held => ?_) rfl)
  cases zone
  obtain rfl := settled
  simp [SlotClaims.step, held]

theorem Moves.cancelled {request : Nat} (waits : zone.slotTask = some (.waiting request))
    (gone : request ∈ slots.cancelled) :
    Moves zoneId zone slots { zone with slotTask := none } (slots.cancelRequest zoneId) := by
  have woken : Moves zoneId zone slots { zone with slotTask := some .cancelled } slots :=
    .of_setZone (.wakeCancelled zoneId) fun state run held => by
      simp [SlotClaims.step, held, run, waits, gone]
  exact woken.trans (.of_operate (.withdrawTask zoneId) (.cancelRequest zoneId)
    (fun state _ held => by simp [SlotClaims.step, held]) rfl)

/-- A granted task goes on with its grant, or gives it back when the runtime is no longer
eligible. -/
theorem Moves.resume {request : Nat} (waits : zone.slotTask = some (.waiting request))
    (granted : request ∈ slots.granted) :
    if zone.runtimeEligible then
      Moves zoneId zone slots { zone with
        slotTask := some (.offering zone.pendingManual), pendingManual := none } slots
    else
      Moves zoneId zone slots { zone with slotTask := none } (slots.release zoneId) := by
  have resumed : Moves zoneId zone slots zone.resume slots :=
    .of_setZone (.resumeTask zoneId) fun state run held => by
      simp [SlotClaims.step, held, run, waits, granted]
  split
  · rename_i eligible
    rwa [ZoneSlot.resume, if_pos eligible] at resumed
  · rename_i ineligible
    rw [ZoneSlot.resume, if_neg ineligible] at resumed
    exact resumed.trans (.of_operate (.releaseTask zoneId) (.release zoneId)
      (fun state _ held => by simp [SlotClaims.step, held]) rfl)

end ZoneSlot

end MoistureLoop
