import MoistureLoop.Controller.Shared

/-! # Possible flow holds the slot or a blocker

A pulse with a recorded intent and no accepted OFF evidence may be flowing.  Its zone owns
the slot from the grant on; where the slot is given up while the pulse is open, the
INTEGRATION_OFF_UNCONFIRMED key has to be live before.  As ON needs the slot and an empty
blocker set, no other zone is watered meanwhile. -/

open MoistureLoop.Action

namespace MoistureLoop

namespace ZoneController

def mayFlow (controller : ZoneController) : Bool :=
  controller.session.any SessionContext.openPulse

def offUnconfirmedKey (controller : ZoneController) : BlockerKey :=
  (controller.safetyRecordId, .integrationOffUnconfirmed)

/-- Possible flow holds the slot or the key. -/
def FlowHeld (controller : ZoneController) (slots : SlotManager) : Prop :=
  controller.mayFlow = true →
    slots.owner = some controller.zoneId ∨ controller.offUnconfirmedKey ∈ slots.blockers

/-- The inductive form: the key is only about to be removed once the session is closed. -/
structure FlowSafe (slots : SlotManager) (controller : ZoneController) : Prop where
  held : controller.FlowHeld slots
  closed : removeBlocker .integrationOffUnconfirmed ∈ controller.ahead → controller.session = none

variable {controller next : ZoneController} {shared shared' : SharedState} {slots : SlotManager}
  {label : ControllerLabel} {sessionId : String}

/-! ## Pieces of a step -/

theorem FlowHeld.of_less (held : controller.FlowHeld slots) (identity : next.identity = controller.identity)
    (less : next.mayFlow = true → controller.mayFlow = true) : next.FlowHeld slots := by
  obtain ⟨zoneId, safetyRecordId⟩ := Prod.mk.inj identity
  intro flowing
  simpa only [offUnconfirmedKey, zoneId, safetyRecordId] using held (less flowing)

theorem FlowSafe.of_session (safe : FlowSafe slots controller)
    (identity : next.identity = controller.identity)
    (session : next.session = controller.session) (ahead : ∀ action ∈ next.ahead,
      action ∈ controller.ahead) : FlowSafe slots next :=
  ⟨safe.held.of_less identity (by simp [mayFlow, session]),
    fun removes => session.trans (safe.closed (ahead _ removes))⟩

theorem FlowSafe.decideAndApply (safe : FlowSafe shared.slots controller)
    (unlocked : controller.locked = none) (event : ControllerEvent) (applier : Applier) :
    FlowSafe shared.slots (controller.decideAndApply shared event applier sessionId) := by
  have nothing := ahead_of_unlocked unlocked
  have rolled := controller.rollDaily_sameDecided shared.calendar shared.now
  have identity : (controller.decideAndApply shared event applier sessionId).identity =
      controller.identity := decideAndApply_identity event applier sessionId
  rcases controller.decideAndApply_cases shared event applier sessionId with
    ⟨raised, applied⟩ | ⟨decision, effect, -, applied⟩
  · rw [applied] at identity ⊢
    obtain ⟨core, ahead⟩ := afterApply_sameCore
      (controller.rollDaily shared.calendar shared.now) applier raised
    exact safe.of_session identity (core.session.trans rolled.session) (by simp [ahead])
  · obtain ⟨-, session', -⟩ := controller.applyPrelude_rolled shared decision
      ((controller.rollDaily shared.calendar shared.now).buildInput shared event sessionId)
    rw [applied] at identity ⊢
    generalize (controller.rollDaily shared.calendar shared.now).applyPrelude shared decision _
      = adopted at identity session' ⊢
    cases effect with
    | starts session decided kept _ _ _ granted _ starting =>
      -- The decision saw the grant.
      refine ⟨fun _ => .inl ?_, fun removes => ?_⟩
      · have owned : shared.slots.owner = some controller.zoneId := by
          simpa [buildInput, rolled.zoneId] using granted
        exact owned.trans (congrArg some (congrArg Prod.fst identity).symm)
      · cases starting _ removes
    | clears cleared _ _ _ =>
      have closed : adopted.session = none := by simp [session', cleared]
      exact ⟨fun flowing => by simp [mayFlow, closed] at flowing, fun _ => closed⟩
    | updates prior after input decided kept _ opened _ keeps _ =>
      have adoptedSession : adopted.session = some after := by simp [session', decided, kept]
      have priorSession : controller.session = some prior := rolled.session.symm.trans input
      refine ⟨safe.held.of_less identity fun flowing => ?_, fun removes => absurd removes keeps⟩
      simp only [mayFlow, adoptedSession, priorSession, Option.any_some] at flowing ⊢
      exact opened flowing
    | keeps decided kept _ keeps _ =>
      have same : adopted.session = controller.session := by simp [session', decided, kept]
      exact ⟨safe.held.of_less identity (by simp [mayFlow, same]), fun removes => absurd removes keeps⟩

theorem FlowSafe.beginOffOperation (safe : FlowSafe slots controller)
    (requestedFor : Option PulseId) : FlowSafe slots (controller.beginOffOperation requestedFor) := by
  rcases controller.beginOffOperation_cases requestedFor with ⟨joined, -⟩ | begun
  · rw [joined]
    exact safe
  · rw [begun]
    exact safe.of_session rfl rfl fun _ member => member

theorem FlowSafe.ensureOffOperation (safe : FlowSafe slots controller)
    (requestedFor : Option PulseId) (compensating : Bool) :
    FlowSafe slots (controller.ensureOffOperation requestedFor compensating) := by
  have cleared : FlowSafe slots { controller with offRequested := false } :=
    safe.of_session rfl rfl fun _ member => member
  exact (cleared.beginOffOperation requestedFor).of_session rfl rfl fun _ member => member

/-- A compensation stays within the pulse, whatever is ahead. -/
theorem FlowSafe.compensate (safe : FlowSafe slots controller) (shared : SharedState)
    (configurationChanged serviceFailed : Bool) :
    FlowSafe slots (controller.compensate shared configurationChanged serviceFailed) := by
  have spec := controller.commitOnCompensationNow_spec shared configurationChanged serviceFailed
  unfold ZoneController.compensate
  generalize controller.commitOnCompensationNow shared configurationChanged serviceFailed
    = result at spec ⊢
  obtain ⟨committed, raised⟩ := result
  obtain ⟨frame, absent, present⟩ := spec
  simp only at frame absent present ⊢
  have kept : FlowSafe slots committed := by
    refine ⟨safe.held.of_less frame.identity fun flowing => ?_, fun removes => ?_⟩
    · cases prior : controller.session with
      | none => simp [mayFlow, (absent prior).1] at flowing
      | some before =>
        obtain ⟨after, same, -, opened, -⟩ := present before prior
        simp only [mayFlow, same, prior, Option.any_some] at flowing ⊢
        exact opened flowing
    · exact (absent (safe.closed (ahead_congr frame.locked ▸ removes))).1
  split
  · exact kept.of_session rfl rfl fun _ member => member
  · exact kept.ensureOffOperation _ true

theorem handlePersistFailure_identity :
    controller.handlePersistFailure.identity = controller.identity := by
  obtain ⟨-, zoneId, safetyRecordId, -⟩ := controller.handlePersistFailure_spec
  simp [identity, zoneId, safetyRecordId]

theorem handlePersistFailure_mayFlow :
    controller.handlePersistFailure.mayFlow = controller.mayFlow := by
  obtain ⟨-, -, -, -, -, -, session, -⟩ := controller.handlePersistFailure_spec
  cases held : controller.session <;> simp [mayFlow, session, held, SessionContext.openPulse]

theorem FlowSafe.handlePersistFailure (safe : FlowSafe slots controller) :
    FlowSafe slots controller.handlePersistFailure := by
  obtain ⟨-, -, -, -, -, locked, session, -⟩ := controller.handlePersistFailure_spec
  refine ⟨safe.held.of_less handlePersistFailure_identity fun flowing => ?_, fun removes => ?_⟩
  · exact handlePersistFailure_mayFlow ▸ flowing
  · simp [session, safe.closed (ahead_congr locked ▸ removes)]

theorem FlowSafe.recordPossibleCommand (safe : FlowSafe slots controller) (marker : InFlightOn) :
    FlowSafe slots (controller.recordPossibleCommand marker) := by
  refine ⟨safe.held.of_less rfl fun flowing => ?_, fun removes => ?_⟩
  · cases held : controller.session with
    | none => simp [mayFlow, ZoneController.recordPossibleCommand, held] at flowing
    | some before =>
      simp only [mayFlow, ZoneController.recordPossibleCommand, held, Option.map_some,
        Option.any_some] at flowing ⊢
      split at flowing <;> exact flowing
  · simp [ZoneController.recordPossibleCommand, safe.closed removes]

theorem closedCore_flowSafe :
    ClosedCore (FlowSafe slots) fun shared => shared.slots = slots where
  sameCore safe core ahead := safe.of_session core.identity core.session fun _ member =>
    ahead ▸ member
  decided event applier _ safe unlocked same := by
    subst same
    exact safe.decideAndApply unlocked event applier
  compensated shared configurationChanged serviceFailed safe _ :=
    safe.compensate shared configurationChanged serviceFailed
  ensured requestedFor compensating safe := safe.ensureOffOperation requestedFor compensating
  begun requestedFor safe := safe.beginOffOperation requestedFor
  recorded marker safe := safe.recordPossibleCommand marker
  failed safe _ := safe.handlePersistFailure

theorem FlowSafe.act (safe : FlowSafe slots controller) {saved : Bool} {decision : Decision}
    {input : TransitionInput} {rest : List Action} {applier : Applier}
    (locked : controller.locked = some (.applying decision input rest applier)) :
    FlowSafe slots (controller.act shared saved decision input applier rest).1 := by
  have ahead : controller.ahead = rest := by simp [ZoneController.ahead, locked]
  cases rest with
  | nil =>
    have core := controller.applyFinish_sameCore
    obtain ⟨released, nothing⟩ := controller.applyFinish.afterApply_sameCore applier false
    exact safe.of_session (core.trans released).identity (core.trans released).session
      (by simp [ZoneController.act, nothing])
  | cons action rest =>
    have decided := controller.applyAction_decided shared action saved
    simp only [ZoneController.act]
    generalize controller.applyAction shared action saved = result at decided ⊢
    obtain ⟨⟨acted, shared'⟩, raised⟩ := result
    obtain ⟨-, session, -, -, zoneId, safetyRecordId, -⟩ := decided
    have identity : acted.identity = controller.identity := Prod.ext zoneId safetyRecordId
    have actedHeld : acted.FlowHeld slots :=
      safe.held.of_less identity (by simp [mayFlow, show acted.session = _ from session])
    have ended : ∀ (last : ZoneController) (raised : Bool), last.FlowHeld slots →
        FlowSafe slots (last.afterApply applier raised) := by
      intro last raised held
      obtain ⟨core, nothing⟩ := last.afterApply_sameCore applier raised
      exact ⟨held.of_less core.identity (by simp [mayFlow, core.session]), by simp [nothing]⟩
    cases raised with
    | none =>
      refine safe.of_session (Eq.trans (by cases action <;> rfl) identity)
        (Eq.trans (by cases action <;> rfl) session) fun ahead' member => ?_
      rw [ahead]
      exact List.mem_cons_of_mem _ member
    | some err =>
      cases err with
      | storeWriteVerification _ =>
        exact ended _ false (actedHeld.of_less handlePersistFailure_identity
          fun flowing => handlePersistFailure_mayFlow ▸ flowing)
      | _ => exact ended acted true actedHeld

/-! ## Steps -/

theorem FlowSafe.step (safe : FlowSafe shared'.slots controller)
    (stepped : controller.step shared label sessionId = some (next, shared')) :
    FlowSafe shared'.slots next := by
  refine closedCore_flowSafe.step rfl safe ?_ (.inr ?_) stepped
  · exact fun saved decision input rest applier _ locked => safe.act locked
  · exact fun shared configurationChanged serviceFailed safe =>
      safe.compensate shared configurationChanged serviceFailed

/-- No step both releases a slot and removes a key. -/
theorem removedKey_of_releasedZone {zoneId : String}
    (releases : controller.releasedZone shared label = some zoneId) :
    controller.removedKey label = none := by
  cases label with
  | act saved =>
    simp only [releasedZone] at releases
    split at releases
    · rename_i first
      simp [removedKey, first]
    · cases releases
  | slotResume => rfl
  | _ => cases releases

/-- The INTEGRATION_OFF_UNCONFIRMED key is only removed once the session is closed. -/
theorem FlowSafe.closed_of_removedKey {safetyRecordId : String} (safe : FlowSafe slots controller)
    (removes : controller.removedKey label =
      some (safetyRecordId, .integrationOffUnconfirmed)) :
    safetyRecordId = controller.safetyRecordId ∧ controller.session = none := by
  cases label with
  | act saved =>
    simp only [removedKey] at removes
    split at removes
    · rename_i reason first
      obtain ⟨rfl, rfl⟩ := Prod.mk.inj (Option.some.inj removes)
      exact ⟨rfl, safe.closed (List.mem_of_mem_head? first)⟩
    · cases removes
  | provingOff saved => simp [removedKey] at removes
  | _ => cases removes

/-! ## Only the gate dispatches ON -/

theorem afterApply_dispatches (applier : Applier) (raised : Bool) :
    (controller.afterApply applier raised).dispatches = controller.dispatches := by
  cases applier with
  | offOperation operation =>
    simp only [afterApply]
    split
    · rfl
    · split <;> rfl
  | confirmation => cases raised <;> rfl
  | _ => rfl

theorem decideAndApply_dispatches (event : ControllerEvent) (applier : Applier) :
    (controller.decideAndApply shared event applier sessionId).dispatches =
      controller.dispatches := by
  have rolled := controller.rollDaily_sameDecided shared.calendar shared.now
  rcases controller.decideAndApply_cases shared event applier sessionId with
    ⟨raised, applied⟩ | ⟨decision, -, -, applied⟩
  · rw [applied]
    exact (afterApply_dispatches applier raised).trans rolled.dispatches
  · rw [applied]
    exact (controller.applyPrelude_rolled shared decision _).1.dispatches

theorem ensureOffOperation_dispatches (requestedFor : Option PulseId) (compensating : Bool) :
    (controller.ensureOffOperation requestedFor compensating).dispatches =
      controller.dispatches := by
  simp only [ZoneController.ensureOffOperation, ZoneController.beginOffOperation]
  split <;> rfl

theorem compensate_dispatches (configurationChanged serviceFailed : Bool) :
    (controller.compensate shared configurationChanged serviceFailed).dispatches =
      controller.dispatches := by
  have frame := (controller.commitOnCompensationNow_spec shared configurationChanged
    serviceFailed).1
  simp only [ZoneController.compensate]
  split
  · exact frame.dispatches
  · exact (ensureOffOperation_dispatches _ _).trans frame.dispatches

theorem handlePersistFailure_dispatches :
    controller.handlePersistFailure.dispatches = controller.dispatches := by
  unfold ZoneController.handlePersistFailure
  simp only
  split <;> rfl

theorem applyAction_dispatches (action : Action) (saved : Bool) :
    (controller.applyAction shared action saved).1.1.dispatches = controller.dispatches := by
  cases action with
  | persistState tag =>
    have rolled := controller.rollDaily_sameDecided shared.calendar shared.now
    simp only [applyAction]
    split <;> exact rolled.dispatches
  | requestSlot =>
    simp only [applyAction, ensureSlotRequest]
    split <;> rfl
  | _ => rfl

theorem act_dispatches {saved : Bool} {decision : Decision} {input : TransitionInput}
    {rest : List Action} {applier : Applier} :
    (controller.act shared saved decision input applier rest).1.dispatches =
      controller.dispatches := by
  cases rest with
  | nil =>
    refine (afterApply_dispatches applier false).trans ?_
    unfold applyFinish
    split <;> rfl
  | cons action rest =>
    have acted := @applyAction_dispatches controller shared action saved
    simp only [ZoneController.act]
    generalize controller.applyAction shared action saved = result at acted ⊢
    obtain ⟨⟨acting, shared'⟩, raised⟩ := result
    cases raised with
    | none => exact Eq.trans (by cases action <;> rfl) acted
    | some err =>
      cases err with
      | storeWriteVerification _ =>
        exact (afterApply_dispatches applier false).trans
          (handlePersistFailure_dispatches.trans acted)
      | _ => exact (afterApply_dispatches applier true).trans acted

theorem closed_dispatches (dispatches : List (PulseId × Instant)) :
    Closed (fun controller => controller.dispatches = dispatches) (fun _ => True) (fun _ => True)
      (fun _ => False) fun _ _ => True where
  stable _ _ _ _ := trivial
  quiet same quiet := quiet.dispatches.trans same
  released same _ := same
  took same _ _ := same
  observed _ _ _ same _ := same
  taken same _ := same
  proving _ same _ _ _ := same
  proven _ same _ _ := (decideAndApply_dispatches _ _).trans same
  offReturned {controller shared operation left} reading same _ _ := by
    refine Eq.trans ?_ same
    simp only [offServiceReturned]
    split <;> rfl
  offEnded {controller shared operation left} same _ _ := by
    refine Eq.trans ?_ same
    simp only [offProofEnded]
    split <;> rfl
  offAborted same _ _ := same
  offSettled _ same _ _ _ := (decideAndApply_dispatches _ _).trans same
  offRecovered _ same _ _ _ := (decideAndApply_dispatches _ _).trans same
  decided _ same _ _ _ _ _ _ _ := (decideAndApply_dispatches _ _).trans same
  dispatched _ _ _ _ _ impossible _ := impossible.elim
  compensated _ configurationChanged serviceFailed same _ :=
    (compensate_dispatches configurationChanged serviceFailed).trans same
  ensured same _ := (ensureOffOperation_dispatches _ _).trans same
  begun {controller} same := by
    refine Eq.trans ?_ same
    unfold ZoneController.beginOffOperation
    split <;> rfl
  recorded _ same := same
  failed same _ := handlePersistFailure_dispatches.trans same

/-- Whatever step adds an ON dispatch is the gate of an authorized session. -/
theorem step_dispatches (stepped : controller.step shared label sessionId = some (next, shared'))
    (dispatches : next.dispatches ≠ controller.dispatches) :
    ∃ authority session, label = .gate authority ∧ controller.session = some session ∧
      (controller.evaluateOnAuthority shared session.sessionId true authority).authorized =
        true := by
  by_contra unauthorized
  refine dispatches ((closed_dispatches controller.dispatches).step trivial rfl ?_ (.inr ?_)
    (fun _ _ => trivial) ?_ (fun _ => trivial) (fun _ _ => rfl) stepped)
  · exact fun saved decision input rest applier _ _ => act_dispatches
  · exact fun _ configurationChanged serviceFailed same =>
      (compensate_dispatches configurationChanged serviceFailed).trans same
  · exact fun authority session gates held authorized =>
      unauthorized ⟨authority, session, gates, held, authorized⟩

/-- An authorized ON command has the slot, and no key is live. -/
theorem slot_of_authorized {authority : OnAuthority}
    (authorized : (controller.evaluateOnAuthority shared sessionId true authority).authorized = true) :
    shared.slots.owner = some controller.zoneId ∧ shared.slots.blockers = [] := by
  simp only [OnAuthorization.authorized, evaluateOnAuthority, List.isEmpty_iff,
    List.append_eq_nil_iff, ite_eq_left_iff, List.cons_ne_nil, imp_false, not_not,
    SlotManager.blockersEmpty] at authorized
  obtain ⟨⟨⟨⟨-, owned⟩, unblocked⟩, -⟩, -⟩ := authorized
  exact ⟨owned, unblocked⟩

end ZoneController

/-! ## Runs of an entry -/

namespace Entry

variable {κ : Type} [DecidableEq κ] {entry next start finish : Entry κ} {label : EntryLabel κ}

/-- Every safety record has one controller, live or retained. -/
def RecordsDistinct (entry : Entry κ) : Prop :=
  ∀ key other, (entry.controllers key).safetyRecordId = (entry.controllers other).safetyRecordId →
    key = other

/-- The owned slot is released only while every possible flow of its zone has its key live. -/
def ReleasesKeyed (entry : Entry κ) (label : EntryLabel κ) (_ : Entry κ) : Prop :=
  ∀ key label' sessionId zoneId, label = .controller key label' sessionId →
    entry.shared.slots.owner = some zoneId →
    (entry.controllers key).releasedZone entry.shared label' = some zoneId →
    ∀ other, (entry.controllers other).zoneId = zoneId →
      (entry.controllers other).mayFlow = true →
      (entry.controllers other).offUnconfirmedKey ∈ entry.shared.slots.blockers

/-- The invariant of such runs. -/
structure FlowExclusive (entry : Entry κ) : Prop where
  distinct : entry.RecordsDistinct
  safe : ∀ key, (entry.controllers key).FlowSafe entry.shared.slots

theorem RecordsDistinct.step (distinct : entry.RecordsDistinct)
    (stepped : entry.step label = some next) : next.RecordsDistinct := by
  intro key other same
  have record : ∀ key, (next.controllers key).safetyRecordId =
      (entry.controllers key).safetyRecordId := fun key =>
    congrArg Prod.snd (step_identity stepped key)
  exact distinct key other ((record key).symm.trans (same.trans (record other)))

omit [DecidableEq κ] in
/-- What the step of one controller does to the slot and the keys endangers no flow. -/
theorem FlowExclusive.sharedMove {key : κ} {label' : ControllerLabel} {sessionId : String}
    {shared : SharedState} (exclusive : entry.FlowExclusive)
    (moved : (entry.controllers key).SharedMove label' entry.shared shared)
    (guarded : entry.ReleasesKeyed (.controller key label' sessionId) next) (other : κ) :
    (entry.controllers other).FlowSafe shared.slots := by
  refine ⟨fun flowing => ?_, (exclusive.safe other).closed⟩
  rcases (exclusive.safe other).held flowing with owned | keyed
  · rcases moved.owner _ owned with kept | released
    · exact .inl kept
    · -- The slot is handed over to the key, which this step cannot remove.
      have keyed := guarded key label' sessionId _ rfl owned released other rfl flowing
      refine .inr ((moved.blockers _ keyed).resolve_right ?_)
      simp [ZoneController.removedKey_of_releasedZone released]
  · refine .inr ((moved.blockers _ keyed).resolve_right fun removed => ?_)
    obtain ⟨same, closed⟩ := (exclusive.safe key).closed_of_removedKey removed
    obtain rfl := exclusive.distinct other key same
    simp [ZoneController.mayFlow, closed] at flowing

theorem FlowExclusive.step (exclusive : entry.FlowExclusive)
    (stepped : entry.step label = some next) (guarded : entry.ReleasesKeyed label next) :
    next.FlowExclusive := by
  refine ⟨exclusive.distinct.step stepped, fun other => ?_⟩
  rcases step_cases stepped with
    ⟨key, label', sessionId, controller, shared, rfl, moved, rfl⟩ | moved
  · have safe := exclusive.sharedMove (ZoneController.step_sharedMove moved) guarded
    by_cases same : other = key
    · subst same
      simpa using (safe other).step moved
    · simpa [Function.update_of_ne same] using safe other
  · rw [moved.controllers]
    refine ⟨fun flowing => ?_, (exclusive.safe other).closed⟩
    rw [moved.blockers]
    exact ((exclusive.safe other).held flowing).imp_left (moved.owner _)

/-- Some step dispatches an ON command for the controller. -/
def DispatchesOn (entry : Entry κ) (key : κ) : Prop :=
  ∃ label next, entry.step label = some next ∧
    (next.controllers key).dispatches ≠ (entry.controllers key).dispatches

/-- ON is dispatched only by the owner of the slot and without any live key. -/
theorem DispatchesOn.exclusive {key : κ} (dispatches : entry.DispatchesOn key) :
    entry.shared.slots.owner = some (entry.controllers key).zoneId ∧
      entry.shared.slots.blockers = [] := by
  obtain ⟨label, next, stepped, dispatches⟩ := dispatches
  rcases step_cases stepped with
    ⟨acting, label', sessionId, controller, shared, -, moved, rfl⟩ | moved
  · by_cases same : key = acting
    · subst same
      obtain ⟨authority, session, -, -, authorized⟩ :=
        ZoneController.step_dispatches moved (by simpa using dispatches)
      exact ZoneController.slot_of_authorized authorized
    · simp [Function.update_of_ne same] at dispatches
  · simp [moved.controllers] at dispatches

/-- In a run that never gives up the slot of a flowing zone without its key, possible flow
holds the slot or the key, and ON is dispatched for no other zone. -/
theorem flowHeld_of_run (reached : system.Run ReleasesKeyed start finish)
    (distinct : start.RecordsDistinct) (unlocked : ∀ key, (start.controllers key).locked = none)
    (held : ∀ key, (start.controllers key).FlowHeld start.shared.slots) :
    (∀ key, (finish.controllers key).FlowHeld finish.shared.slots) ∧
    ∀ key, finish.DispatchesOn key → ∀ other,
      (finish.controllers other).mayFlow = true →
      (finish.controllers other).zoneId = (finish.controllers key).zoneId := by
  have initial : start.FlowExclusive := ⟨distinct, fun key => ⟨held key, by
    simp [ZoneController.ahead_of_unlocked (unlocked key)]⟩⟩
  have invariant : finish.FlowExclusive := reached.preserves initial
    fun _ _ _ exclusive stepped guarded => exclusive.step stepped guarded
  refine ⟨fun key => (invariant.safe key).held, fun key dispatches other flowing => ?_⟩
  obtain ⟨owned, unblocked⟩ := dispatches.exclusive
  rcases (invariant.safe other).held flowing with owns | keyed
  · exact Option.some.inj (owns.symm.trans owned)
  · simp [unblocked] at keyed

private def switchOff : ActuatorAssessment := ⟨true, true, false, Bool.and_false true⟩

private def switchOn : ActuatorAssessment := ⟨true, false, true, Bool.false_and true⟩

/-- A check that implies that no flowing zone gives up its slot without its key. -/
def keyedCheck (entry : Entry Bool) : EntryLabel Bool → Bool
  | .controller key label _ =>
    ((entry.controllers key).releasedZone entry.shared label).all fun zoneId =>
      [false, true].all fun other =>
        decide ((entry.controllers other).zoneId ≠ zoneId) ||
          !(entry.controllers other).mayFlow ||
          decide ((entry.controllers other).offUnconfirmedKey ∈ entry.shared.slots.blockers)
  | _ => true

theorem releasesKeyed_of_check {entry next : Entry Bool} {label : EntryLabel Bool}
    (permitted : entry.keyedCheck label = true) : entry.ReleasesKeyed label next := by
  rintro key label' sessionId zoneId rfl - released other same flowing
  simp only [keyedCheck, released, Option.all_some, List.all_cons, List.all_nil, Bool.and_true,
    Bool.and_eq_true, Bool.or_eq_true, decide_eq_true_eq, Bool.not_eq_true'] at permitted
  cases other with
  | false => simpa [same, flowing] using permitted.1
  | true => simpa [same, flowing] using permitted.2

/-- The OFF of the first zone stays unproven, and its key is stored before it is disabled and
gives up the slot; the other zone has asked for the slot. -/
def unprovenOffLabels : List (EntryLabel Bool) :=
  let authority : OnAuthority := ⟨[], false, switchOff⟩
  let attempt : List ControllerLabel := [.offServiceReturned 0 switchOn, .offProofEnded 0]
  let acts (count : Nat) : List ControllerLabel := List.replicate count (.act true)
  let waters : List (List ControllerLabel) :=
    [[.dispatch (.manualStartRequested (some 60))], acts 2,
      [.slotRequest, .slotResume, .slotOffer], acts 5,
      [.wake, .gate authority, .serviceReturned false authority, .reenter authority,
        .anchor true, .recheck authority]]
  let waits : List (List ControllerLabel) :=
    [[.dispatch (.manualStartRequested (some 60))], acts 2, [.slotRequest]]
  let fails : List (List ControllerLabel) :=
    [[.dispatch .onConfirmTimeout], acts 4, [.wake], attempt, attempt, attempt,
      [.offDispatch 0], acts 4, [.setEnabled false], acts 3]
  let bed (labels : List (List ControllerLabel)) : List (EntryLabel Bool) :=
    labels.flatten.map (.controller false · "bed")
  ((bed waters).append (waits.flatten.map (.controller true · "lawn"))).append (bed fails)

/-- Nobody owns the slot, the first zone may still flow, and the other one waits behind its
key. -/
theorem flowHeld_of_run_unprovenOff :
    ∃ finish,
      system.runWhile (fun entry label _ => entry.keyedCheck label) twoZones unprovenOffLabels =
        some finish ∧
      (finish.controllers false).mayFlow = true ∧ finish.shared.slots.owner = none ∧
      finish.shared.slots.queue.map SlotRequest.zoneId = ["lawn"] ∧
      (∀ key, (finish.controllers key).FlowHeld finish.shared.slots) ∧
      ∀ key, finish.DispatchesOn key → ∀ other, (finish.controllers other).mayFlow = true →
        (finish.controllers other).zoneId = (finish.controllers key).zoneId := by
  obtain ⟨finish, ran, given⟩ := (Option.any_eq_true _ _).mp
    (show (system.runWhile (fun entry label _ => entry.keyedCheck label) twoZones
      unprovenOffLabels).any (fun finish =>
        (finish.controllers false).mayFlow && decide (finish.shared.slots.owner = none) &&
        decide (finish.shared.slots.queue.map SlotRequest.zoneId = ["lawn"])) = true
      by decide +kernel)
  simp only [Bool.and_eq_true, decide_eq_true_eq] at given
  obtain ⟨⟨flowing, unowned⟩, queued⟩ := given
  have distinct : twoZones.RecordsDistinct := by
    unfold RecordsDistinct
    decide +kernel
  have idle : ∀ key, (twoZones.controllers key).mayFlow = false := by decide +kernel
  exact ⟨finish, ran, flowing, unowned, queued, flowHeld_of_run
    (.of_runWhile (fun _ _ _ => releasesKeyed_of_check) ran) distinct (by decide +kernel)
    fun key flows => absurd flows (by simp [idle key])⟩

/-! ## A slot given up without its key -/

/-- A manual start whose OFF stays unproven.  The write of that failure fails, which skips
the key and keeps the slot; then the zone is disabled. -/
def disabledUnprovenLabels : List (EntryLabel Unit) :=
  let authority : OnAuthority := ⟨[], false, switchOff⟩
  let attempt : List ControllerLabel := [.offServiceReturned 0 switchOn, .offProofEnded 0]
  let acts (count : Nat) : List ControllerLabel := List.replicate count (.act true)
  let labels : List (List ControllerLabel) :=
    [[.dispatch (.manualStartRequested (some 60))], acts 5,
      [.wake, .gate authority, .serviceReturned false authority, .reenter authority,
        .anchor true, .recheck authority, .dispatch .onConfirmTimeout], acts 4,
      [.wake], attempt, attempt, attempt,
      [.offDispatch 0, .act false, .setEnabled false], acts 2]
  labels.flatten.map (.controller () · "session")

/-- T45 releases the slot of a zone whose valve was never proven OFF. -/
theorem not_flowHeld_disabled_unproven :
    ¬ ∀ start finish : Entry Unit, system.Run (fun _ _ _ => True) start finish →
      start.RecordsDistinct → (∀ key, (start.controllers key).locked = none) →
      (∀ key, (start.controllers key).FlowHeld start.shared.slots) →
      ∀ key, (finish.controllers key).FlowHeld finish.shared.slots := by
  intro claimed
  have given : ((system.run ⟨fun _ => sampleController, sampleShared⟩
      disabledUnprovenLabels).any fun finish =>
        (finish.controllers ()).mayFlow && finish.shared.slots.owner.isNone &&
          finish.shared.slots.blockers.isEmpty) = true := by decide +kernel
  obtain ⟨finish, executed, given⟩ := (Option.any_eq_true _ _).mp given
  simp only [Bool.and_eq_true, Option.isNone_iff_eq_none, List.isEmpty_iff] at given
  obtain ⟨⟨flowing, unowned⟩, unkeyed⟩ := given
  have held := claimed _ finish (LabelledSystem.Run.of_run executed) (fun _ _ _ => rfl)
    (fun _ => rfl) (fun _ flowing => by cases flowing) () flowing
  simp [unowned, unkeyed] at held

end Entry

end MoistureLoop
