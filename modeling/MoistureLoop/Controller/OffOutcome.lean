import MoistureLoop.Controller.OffTurns

/-! # The outcome of one OFF operation

One operation is followed beside the entry: its OFF commands, how each application of its
outcome ended, and whether its task ended without resolving the future.  Its task and the
session-owner task may be cancelled at any await.  As long as no outcome event is dropped
half applied, the operation resolves once, to what its only outcome says. -/

namespace MoistureLoop

/-! ## Following one operation -/

structure FollowedOff (κ : Type) where
  entry : Entry κ
  record : OffRecord

inductive FollowedLabel (κ : Type) where
  | entry (label : EntryLabel κ)
  | cancelOff
  | cancelSession (key : κ) (authority : OnAuthority) (again : Bool)

namespace FollowedOff

variable {κ : Type} [DecidableEq κ]

def owner (followed : FollowedOff κ) (key : κ) : ZoneController := followed.entry.controllers key

def withController (entry : Entry κ) (key : κ) (controller : ZoneController) : Entry κ :=
  { entry with controllers := Function.update entry.controllers key controller }

def deliveredBy (followed : FollowedOff κ) (key : κ) (operation : Nat) :
    EntryLabel κ → Option Delivery
  | .controller other label sessionId =>
    if other = key then
      (followed.owner key).delivered followed.entry.shared operation label sessionId
    else none
  | _ => none

def deadDispatch (followed : FollowedOff κ) (key : κ) (operation : Nat) : EntryLabel κ → Bool
  | .controller other (.offDispatch current) _ =>
    followed.record.lost && (other = key && current = operation)
  | _ => false

def step (key : κ) (operation : Nat) (followed : FollowedOff κ) :
    FollowedLabel κ → Option (FollowedOff κ)
  | .entry label =>
    if followed.deadDispatch key operation label then none
    else (followed.entry.step label).map fun entry =>
      { entry := entry
        record := followed.record.after ((followed.owner key).offPhase operation)
          ((entry.controllers key).offPhase operation)
          (followed.deliveredBy key operation label) }
  | .cancelOff =>
    ((followed.owner key).cancelOff operation).map fun (controller, delivery, lost) =>
      { entry := withController followed.entry key controller
        record := { followed.record with
          deliveries := followed.record.deliveries ++ delivery.toList
          lost := followed.record.lost || lost } }
  | .cancelSession other authority again =>
    let entry := withController followed.entry other
      ((followed.owner other).cancelSessionTask followed.entry.shared authority again)
    some
      { entry := entry
        record := followed.record.after ((followed.owner key).offPhase operation)
          ((entry.controllers key).offPhase operation) none }

def system (key : κ) (operation : Nat) : LabelledSystem (FollowedOff κ) (FollowedLabel κ) :=
  ⟨step key operation⟩

end FollowedOff

/-! ## Steps of the followed entry -/

def OffRecord.Accounts (record : OffRecord) : Option OffPhase → Prop
  | none => record.commands = 0 ∧ record.deliveries = []
  | some phase => record.Commanded phase ∧ record.Delivered phase

namespace FollowedOff

variable {κ : Type} {key : κ} {operation : Nat} {followed next : FollowedOff κ}
  {label : FollowedLabel κ}

def phase (followed : FollowedOff κ) (key : κ) (operation : Nat) : Option OffPhase :=
  (followed.owner key).offPhase operation

def IsOwn (key : κ) (operation : Nat) (followed : FollowedOff κ) : FollowedLabel κ → Prop
  | .entry (.controller other label _) => other = key ∧
    (label.isOffStep operation = true ∨
      ∃ saved, label = .act saved ∧ ((followed.owner key).outcomeApplying operation).isSome = true)
  | .cancelOff => True
  | _ => False

/-- The step drops no outcome: OffConfirmed is applied without a cancellation or a failing
write, and the recovery is not cancelled and its event is decided. -/
structure OutcomeKept (key : κ) (operation : Nat) (followed : FollowedOff κ)
    (label : FollowedLabel κ) (next : FollowedOff κ) : Prop where
  cancelled : label = .cancelOff → ∀ phase, followed.phase key operation = some phase →
    phase.isUninterruptible = false
  decided : ∀ sessionId, label = .entry (.controller key (.offDispatch operation) sessionId) →
    followed.phase key operation = some .recovering →
    ∃ decision, StateMachine.decide ((followed.owner key).outcomeInput followed.entry.shared
      .offNotConfirmed sessionId) = .ok decision
  stored : ∀ saved sessionId, label = .entry (.controller key (.act saved) sessionId) →
    ∀ decision input action rest,
      (followed.owner key).outcomeApplying operation = some (decision, input, action :: rest) →
      input.event.confirmsOff = true →
      (followed.owner key).Stores followed.entry.shared action saved

inductive Moved (key : κ) (operation : Nat) (followed : FollowedOff κ) (label : FollowedLabel κ)
    (next : FollowedOff κ) : Prop where
  | kept : ¬ followed.IsOwn key operation label →
      ZoneController.OffKept operation (followed.owner key) (next.owner key) →
      next.record = followed.record.after (followed.phase key operation)
        (next.phase key operation) none → Moved key operation followed label next
  | own {isKept : Bool} {delivery : Option Delivery} : followed.IsOwn key operation label →
      ZoneController.OffTurn operation isKept (followed.owner key) delivery (next.owner key) →
      next.record = followed.record.after (followed.phase key operation)
        (next.phase key operation) delivery →
      (OutcomeKept key operation followed label next → isKept = true) →
      Moved key operation followed label next
  | lost : label = .cancelOff → followed.phase key operation = some .recovering →
      Moved key operation followed label next

theorem delivered_of_other {controller : ZoneController} {shared : SharedState}
    {acting : ControllerLabel} {sessionId : String} (other : acting.isOffStep operation = false)
    (acts : ∀ saved, acting = .act saved → controller.outcomeApplying operation = none) :
    controller.delivered shared operation acting sessionId = none := by
  cases acting with
  | offDispatch current =>
    have differs : current ≠ operation := by simpa [ControllerLabel.isOffStep] using other
    simp [ZoneController.delivered, differs]
  | act saved => simp [ZoneController.delivered, acts saved rfl]
  | _ => rfl

theorem moved_of_owner {acting : ControllerLabel} {sessionId : String}
    {controller : ZoneController} {shared : SharedState}
    (fits : (followed.owner key).OffFits operation)
    (moved : (followed.owner key).step followed.entry.shared acting sessionId =
      some (controller, shared))
    (after : next.owner key = controller)
    (recorded : next.record = followed.record.after (followed.phase key operation)
      (next.phase key operation)
      ((followed.owner key).delivered followed.entry.shared operation acting sessionId)) :
    Moved key operation followed (.entry (.controller key acting sessionId)) next := by
  subst after
  by_cases own : acting.isOffStep operation = true
  · have stepped : (followed.owner key).offStep followed.entry.shared acting sessionId =
        some (next.owner key) := by
      cases acting with
      | offServiceReturned _ _ | offProofEnded _ | offAborted _ | offDispatch _ =>
        simp only [ZoneController.step] at moved
        obtain ⟨controller, stepped, same⟩ := Option.map_eq_some_iff.mp moved
        obtain ⟨rfl, -⟩ := Prod.mk.inj same
        exact stepped
      | _ => cases own
    obtain ⟨kept, turn, -, decides⟩ := ZoneController.offStep_turn fits own stepped
    refine .own ⟨rfl, .inl own⟩ turn recorded fun outcomeKept => decides ?_
    rintro rfl recovering
    exact outcomeKept.decided sessionId rfl recovering
  by_cases acts : ∃ saved, acting = .act saved ∧
      ((followed.owner key).outcomeApplying operation).isSome = true
  · obtain ⟨saved, rfl, held⟩ := acts
    obtain ⟨⟨decision, input, rest⟩, applying⟩ := Option.isSome_iff_exists.mp held
    have locked := ZoneController.locked_of_outcomeApplying applying
    have acted : next.owner key = ((followed.owner key).act followed.entry.shared saved decision
        input (.offOperation operation) rest).1 := by
      simp only [ZoneController.step, locked] at moved
      rw [Option.some.inj moved]
    obtain ⟨kept, turn, -, stores⟩ := @ZoneController.act_turn operation (followed.owner key)
      followed.entry.shared sessionId saved decision input rest fits applying
    rw [← acted] at turn
    refine .own ⟨rfl, .inr ⟨saved, rfl, held⟩⟩ turn recorded fun outcomeKept => stores ?_
    rintro action remaining rfl confirms
    exact outcomeKept.stored saved sessionId rfl decision input action remaining applying confirms
  · have free : ∀ saved, acting = .act saved →
        (followed.owner key).outcomeApplying operation = none := by
      rintro saved rfl
      by_contra held
      exact acts ⟨saved, rfl, by simpa [Option.isSome_iff_ne_none] using held⟩
    have other : acting.isOffStep operation = false := by simpa using own
    refine .kept ?_ (ZoneController.step_offKept other free moved) ?_
    · rintro ⟨-, step | ⟨saved, same, held⟩⟩
      · exact own step
      · exact acts ⟨saved, same, held⟩
    · rw [recorded, delivered_of_other other free]

/-- A step that leaves the controller as it is. -/
theorem Moved.of_same {entry : Entry κ} (other : ¬ followed.IsOwn key operation label)
    (same : entry.controllers key = followed.entry.controllers key) :
    Moved key operation followed label ⟨entry, followed.record.after
      ((followed.owner key).offPhase operation) ((entry.controllers key).offPhase operation)
      none⟩ := by
  have owns : (⟨entry, followed.record.after ((followed.owner key).offPhase operation)
      ((entry.controllers key).offPhase operation) none⟩ : FollowedOff κ).owner key =
      followed.owner key := same
  exact .kept other (owns ▸ .refl _) rfl

variable [DecidableEq κ]

theorem owner_withController (entry : Entry κ) (other : κ) (controller : ZoneController)
    (record : OffRecord) :
    (⟨withController entry other controller, record⟩ : FollowedOff κ).owner key =
      if key = other then controller else entry.controllers key := by
  simp only [owner, withController, Function.update_apply]

theorem step_moved (fits : (followed.owner key).OffFits operation)
    (stepped : (system key operation).step followed label = some next) :
    Moved key operation followed label next := by
  have stepped : followed.step key operation label = some next := stepped
  cases label with
  | entry label =>
    simp only [step, Option.ite_none_left_eq_some] at stepped
    obtain ⟨entry, moved, rfl⟩ := Option.map_eq_some_iff.mp stepped.2
    cases label with
    | controller other acting sessionId =>
      obtain ⟨⟨controller, shared⟩, acted, rfl⟩ := Option.map_eq_some_iff.mp moved
      by_cases same : other = key
      · subst same
        refine moved_of_owner fits acted ?_ ?_
        · simp [owner]
        · simp [deliveredBy, phase, owner]
      · simp only [deliveredBy, if_neg same]
        refine .of_same (fun own => same own.1) ?_
        simp [Function.update_of_ne (Ne.symm same)]
    | tick now =>
      obtain rfl := Option.some.inj moved
      exact .of_same (fun own => own) rfl
    | admission change =>
      obtain rfl := Option.some.inj moved
      exact .of_same (fun own => own) rfl
    | storeChanged data =>
      obtain ⟨-, same⟩ := Option.ite_none_right_eq_some.mp moved
      obtain rfl := Option.some.inj same
      exact .of_same (fun own => own) rfl
  | cancelOff =>
    obtain ⟨⟨controller, delivery, lost⟩, cancelled, rfl⟩ := Option.map_eq_some_iff.mp stepped
    rcases ZoneController.cancelOff_turn fits cancelled with
      ⟨rfl, recovering⟩ | ⟨rfl, after, kept, phase, found, turn, interruptible⟩
    · exact .lost rfl recovering
    · have owns : (⟨withController followed.entry key controller, { followed.record with
          deliveries := followed.record.deliveries ++ delivery.toList
          lost := followed.record.lost || false }⟩ : FollowedOff κ).owner key = controller := by
        simp [owner_withController]
      refine .own trivial (owns ▸ turn) ?_ fun outcomeKept =>
        interruptible (outcomeKept.cancelled rfl _ found)
      simp [FollowedOff.phase, owner_withController, after, OffRecord.after,
        OffPhase.isCommanding]
  | cancelSession other authority again =>
    obtain rfl := Option.some.inj stepped
    by_cases same : other = key
    · subst same
      refine .kept (fun own => own) ?_ rfl
      rw [owner_withController, if_pos rfl]
      exact ZoneController.cancelSessionTask_offKept authority again
    · refine .of_same (fun own => own) ?_
      simp [withController, Function.update_of_ne (Ne.symm same)]

/-! ## The run -/

structure Accounted (key : κ) (operation : Nat) (followed : FollowedOff κ) : Prop where
  fits : (followed.owner key).OffFits operation
  alive : followed.record.lost = false
  accounts : followed.record.Accounts (followed.phase key operation)

theorem after_self (record : OffRecord) (phase : Option OffPhase) :
    record.after phase phase none = record := by
  simp [OffRecord.after]

omit [DecidableEq κ] in
/-- A step of others keeps the account, or opens it. -/
theorem Accounted.kept (accounted : followed.Accounted key operation)
    (kept : ZoneController.OffKept operation (followed.owner key) (next.owner key))
    (recorded : next.record = followed.record.after (followed.phase key operation)
      (next.phase key operation) none) : next.Accounted key operation := by
  obtain ⟨fits, alive, accounts⟩ := accounted
  have left : (next.owner key).outcomeLeft operation =
      (followed.owner key).outcomeLeft operation := by
    rw [ZoneController.outcomeLeft, kept.applying, ZoneController.outcomeLeft]
  refine ⟨?_, by rw [recorded]; exact alive, ?_⟩
  · rcases kept.phase with same | ⟨absent, begun⟩
    · rwa [ZoneController.OffFits, left, same]
    · rw [ZoneController.OffFits, absent] at fits
      rw [ZoneController.OffFits, left, begun]
      exact fits
  · rcases kept.phase with same | ⟨absent, begun⟩
    · have still : next.phase key operation = followed.phase key operation := same
      rwa [recorded, still, after_self]
    · have before : followed.phase key operation = none := absent
      have after : next.phase key operation = some ZoneController.offBegun := begun
      rw [before] at accounts
      obtain ⟨commands, deliveries⟩ := accounts
      rw [recorded, before, after]
      simp [OffRecord.after, OffRecord.Accounts, OffRecord.Commanded, OffRecord.Delivered,
        ZoneController.offBegun, OffPhase.isCommanding, offTotalAttempts, commands, deliveries]

theorem Accounted.step (accounted : followed.Accounted key operation)
    (stepped : (system key operation).step followed label = some next)
    (outcomeKept : OutcomeKept key operation followed label next) :
    next.Accounted key operation := by
  cases step_moved accounted.fits stepped with
  | kept _ kept recorded => exact accounted.kept kept recorded
  | own _ turn recorded isKept =>
    obtain ⟨fits, alive, accounts⟩ := accounted
    obtain rfl := isKept outcomeKept
    obtain ⟨before, after, found, found', move⟩ := turn
    have found : followed.phase key operation = some before := found
    have found' : next.phase key operation = some after := found'
    rw [ZoneController.OffFits, show (followed.owner key).offPhase operation = some before from
      found] at fits
    rw [found] at accounts
    refine ⟨?_, by rw [recorded]; exact alive, ?_⟩
    · rw [ZoneController.OffFits, show (next.owner key).offPhase operation = some after from found']
      exact move.coherent fits
    · rw [recorded, found, found']
      exact ⟨move.commanded accounts.1 fits, move.delivered accounts.2 fits⟩
  | lost cancelled recovering =>
    cases outcomeKept.cancelled cancelled _ recovering

/-! ## The operation resolves -/

structure Live (key : κ) (operation : Nat) (followed : FollowedOff κ) : Prop where
  fits : (followed.owner key).OffFits operation
  alive : followed.record.lost = false
  begun : ∃ phase, followed.phase key operation = some phase ∧ ∀ result, phase ≠ .done result

def Resolved (key : κ) (operation : Nat) (followed : FollowedOff κ) : Prop :=
  ∃ result, followed.phase key operation = some (.done result)

def HasTurn (key : κ) (operation : Nat) (followed : FollowedOff κ) : Prop :=
  (followed.owner key).HasTurn operation

/-- A step of the task's own is one of the entry. -/
theorem enabled_of_step {acting : ControllerLabel} {sessionId : String}
    (acts : ((followed.owner key).step followed.entry.shared acting sessionId).isSome = true)
    (alive : followed.record.lost = false) :
    ∃ next, (system key operation).step followed (.entry (.controller key acting sessionId)) =
      some next := by
  have lives : followed.deadDispatch key operation (.controller key acting sessionId) = false := by
    cases acting <;> simp [deadDispatch, alive]
  apply Option.isSome_iff_exists.mp
  change (followed.step key operation (.entry (.controller key acting sessionId))).isSome = true
  simpa [step, lives, Entry.step, owner] using acts

theorem Live.enabled (live : followed.Live key operation) (turn : followed.HasTurn key operation) :
    ∃ label next, followed.IsOwn key operation label ∧
      (system key operation).step followed label = some next := by
  obtain ⟨fits, alive, phase, found, undone⟩ := live
  have there : (followed.owner key).offPhase operation = some phase := found
  have steps : ∀ acting, (acting.isOffStep operation = true ∨ ∃ saved, acting = .act saved ∧
        ((followed.owner key).outcomeApplying operation).isSome = true) →
      ((followed.owner key).step followed.entry.shared acting "").isSome = true →
      ∃ label next, followed.IsOwn key operation label ∧
        (system key operation).step followed label = some next := by
    intro acting own enabled
    obtain ⟨next, stepped⟩ := @enabled_of_step κ key operation followed _ acting "" enabled alive
    exact ⟨.entry (.controller key acting ""), next, (show _ ∧ _ from ⟨rfl, own⟩), stepped⟩
  rw [ZoneController.OffFits, there] at fits
  have free : (followed.owner key).outcomeLeft operation = none →
      (followed.owner key).locked = none := by
    intro idle
    rcases turn with free | held
    · exact free
    · obtain ⟨applying, held⟩ := Option.isSome_iff_exists.mp held
      simp [ZoneController.outcomeLeft, held] at idle
  have applies : ∀ {left}, (followed.owner key).outcomeLeft operation = some left →
      ∃ label next, followed.IsOwn key operation label ∧
        (system key operation).step followed label = some next := by
    intro left held
    obtain ⟨⟨decision, input, rest⟩, applying, -⟩ := Option.map_eq_some_iff.mp held
    refine steps (.act true) (.inr ⟨true, rfl, by rw [applying]; rfl⟩) ?_
    simp only [ZoneController.step, ZoneController.locked_of_outcomeApplying applying]
    rfl
  have raw : (followed.owner key).offOperations[operation]?.map OffOperation.phase = some phase :=
    there
  cases phase with
  | commanding left =>
    refine steps (.offServiceReturned operation (followed.owner key).assessment)
      (.inl (by simp [ControllerLabel.isOffStep])) ?_
    simp [ZoneController.step, ZoneController.offStep, raw]
  | awaitingProof left =>
    refine steps (.offProofEnded operation) (.inl (by simp [ControllerLabel.isOffStep])) ?_
    simp [ZoneController.step, ZoneController.offStep, raw]
  | settling confirmedAt =>
    refine steps (.offDispatch operation) (.inl (by simp [ControllerLabel.isOffStep])) ?_
    simp [ZoneController.step, ZoneController.offStep, raw, free fits]
  | dispatching confirmedAt =>
    obtain ⟨left, held⟩ := fits
    exact applies held
  | recovering =>
    cases held : (followed.owner key).outcomeLeft operation with
    | some left => exact applies held
    | none =>
      refine steps (.offDispatch operation) (.inl (by simp [ControllerLabel.isOffStep])) ?_
      simp [ZoneController.step, ZoneController.offStep, raw, free held]
  | done result => exact absurd rfl (undone result)

def rank (key : κ) (operation : Nat) (followed : FollowedOff κ) : Nat ×ₗ Nat :=
  ((followed.phase key operation).map
    (offRank · ((followed.owner key).outcomeLeft operation))).getD (toLex (0, 0))

theorem Live.resolves (live : followed.Live key operation) :
    (system key operation).Leads (IsOwn key operation) (OutcomeKept key operation)
      (HasTurn key operation) (Resolved key operation) followed := by
  refine LabelledSystem.Leads.of_rank (rank key operation) ?_
    (fun _ live turn => Live.enabled live turn) ?_ live
  · intro state label next live stepped other
    obtain ⟨fits, alive, phase, found, undone⟩ := live
    cases step_moved fits stepped with
    | kept _ kept recorded =>
      have still : next.phase key operation = some phase := by
        rcases kept.phase with same | ⟨absent, -⟩
        · exact same.trans found
        · exact absurd (absent.symm.trans found) (by simp)
      have left : (next.owner key).outcomeLeft operation =
          (state.owner key).outcomeLeft operation := by
        rw [ZoneController.outcomeLeft, kept.applying, ZoneController.outcomeLeft]
      have fits' : (next.owner key).OffFits operation := by
        rw [ZoneController.OffFits, left, show (next.owner key).offPhase operation =
          (state.owner key).offPhase operation from still.trans found.symm]
        exact fits
      exact ⟨⟨fits', by rw [recorded]; exact alive, phase, still, undone⟩,
        by rw [rank, rank, still, found, left]⟩
    | own own => exact absurd own other
    | lost cancelled => exact absurd (by rw [cancelled]; trivial) other
  · intro state label next live own stepped outcomeKept
    obtain ⟨fits, alive, phase, found, undone⟩ := live
    cases step_moved fits stepped with
    | kept other => exact absurd own other
    | own _ turn recorded isKept =>
      obtain ⟨before, after, found', after', move⟩ := turn
      obtain rfl : phase = before := Option.some.inj (found.symm.trans found')
      have after' : next.phase key operation = some after := after'
      rw [ZoneController.OffFits, found'] at fits
      have lower : next.rank key operation < state.rank key operation := by
        rw [rank, rank, found, after']
        exact move.rank_lt fits
      by_cases done : ∃ result, after = .done result
      · obtain ⟨result, rfl⟩ := done
        exact .inl ⟨result, after'⟩
      · have fits' : (next.owner key).OffFits operation := by
          rw [ZoneController.OffFits, show (next.owner key).offPhase operation = some after
            from after']
          exact move.coherent fits
        exact .inr ⟨⟨fits', by rw [recorded]; exact alive, after, after',
          fun result same => done ⟨result, same⟩⟩, lower⟩
    | lost cancelled recovering => cases outcomeKept.cancelled cancelled _ recovering

/-- What is promised of the operation in every state. -/
structure OffDelivered (key : κ) (operation : Nat) (followed : FollowedOff κ) : Prop where
  /-- What it is to apply OffConfirmed in full. -/
  applied : ∀ input confirmedAt decision, input.event = .offConfirmed confirmedAt →
    StateMachine.decide input = .ok decision →
    decision.noOp = true ∨ StateMachine.StoresAndReleases decision
  commands : ∀ phase, followed.phase key operation = some phase →
    1 ≤ followed.record.commands ∧ followed.record.commands ≤ offTotalAttempts
  delivers : ∀ result, followed.phase key operation = some (.done result) →
    followed.record.Delivers result
  resolves : ∀ phase, followed.phase key operation = some phase →
    (system key operation).Leads (IsOwn key operation) (OutcomeKept key operation)
      (HasTurn key operation) (Resolved key operation) followed

/-- While no outcome is dropped, a begun operation issues its commands, resolves, and
delivers one outcome, which is what its future says. -/
theorem offDelivered_of_run {start finish : FollowedOff κ}
    (reached : (system key operation).Run (OutcomeKept key operation) start finish)
    (unbegun : start.phase key operation = none)
    (idle : (start.owner key).outcomeApplying operation = none) (fresh : start.record = {}) :
    finish.OffDelivered key operation := by
  have initial : start.Accounted key operation := by
    refine ⟨?_, by rw [fresh], ?_⟩
    · rw [ZoneController.OffFits, show (start.owner key).offPhase operation = none from unbegun,
        ZoneController.outcomeLeft, idle]
      rfl
    · rw [unbegun, fresh]
      exact ⟨rfl, rfl⟩
  have accounted : finish.Accounted key operation :=
    reached.preserves initial fun _ _ _ accounted stepped kept => accounted.step stepped kept
  obtain ⟨fits, alive, accounts⟩ := accounted
  refine ⟨fun _ _ _ => StateMachine.offConfirmed_stores, fun phase found => ?_,
    fun result found => ?_, fun phase found => ?_⟩
  · rw [found] at accounts
    exact ⟨accounts.1.1, accounts.1.2.1⟩
  · rw [found] at accounts
    exact accounts.2
  · by_cases done : ∃ result, phase = .done result
    · obtain ⟨result, rfl⟩ := done
      exact .reached ⟨result, found⟩
    · exact Live.resolves ⟨fits, alive, phase, found, fun result same => done ⟨result, same⟩⟩

/-- A check of the guard on one step. -/
def outcomeKeptCheck (key : κ) (operation : Nat) (followed : FollowedOff κ) :
    FollowedLabel κ → FollowedOff κ → Bool
  | .cancelOff, _ => false
  | .entry (.controller _ (.offDispatch _) _), _ =>
    (followed.phase key operation).all fun phase => phase != .recovering
  | .entry (.controller _ (.act saved) _), _ =>
    match (followed.owner key).outcomeApplying operation with
    | some (_, _, action :: _) =>
      ((followed.owner key).applyAction followed.entry.shared action saved).2.isNone
    | _ => true
  | _, _ => true

omit [DecidableEq κ] in
theorem outcomeKept_of_check
    (checked : outcomeKeptCheck key operation followed label next = true) :
    OutcomeKept key operation followed label next where
  cancelled := by
    rintro rfl
    cases checked
  decided := by
    rintro sessionId rfl recovering
    simp [outcomeKeptCheck, recovering] at checked
  stored := by
    rintro saved sessionId rfl decision input action rest applying -
    simp only [outcomeKeptCheck, applying, Option.isNone_iff_eq_none] at checked
    exact ZoneController.stores_iff.mpr checked

/-- The zone that waters asks for OFF, which is proven when the service returns. -/
def confirmingLabels (saved : Bool) (acts : Nat) : List (FollowedLabel Unit) :=
  let labels : List ControllerLabel :=
    [.ensureOff, .offServiceReturned 0 ⟨true, true, false, Bool.and_false true⟩, .offDispatch 0]
  (labels.append (List.replicate acts (.act saved))).map fun label =>
    .entry (.controller () label "")

theorem offDelivered_of_run_confirmed :
    ∃ finish, (system () 0).runWhile (outcomeKeptCheck () 0) ⟨Entry.sampleWatering, {}⟩
        (confirmingLabels true 5) = some finish ∧
      finish.phase () 0 = some (.done true) ∧ finish.OffDelivered () 0 := by
  obtain ⟨finish, executed, done⟩ := (Option.any_eq_true _ _).mp
    (show ((system () 0).runWhile (outcomeKeptCheck () 0) ⟨Entry.sampleWatering, {}⟩
      (confirmingLabels true 5)).any (fun finish => decide (finish.phase () 0 = some (.done true)))
      = true by decide +kernel)
  exact ⟨finish, executed, of_decide_eq_true done,
    offDelivered_of_run (.of_runWhile (fun _ _ _ => outcomeKept_of_check) executed) rfl rfl rfl⟩

/-! ## A future that never resolves -/

/-- The task has ended in its recovery. -/
structure Abandoned (key : κ) (operation : Nat) (followed : FollowedOff κ) : Prop where
  lost : followed.record.lost = true
  phase : followed.phase key operation = some .recovering
  idle : (followed.owner key).outcomeApplying operation = none

/-- A step of the ended task is at most another cancellation. -/
theorem Abandoned.cancelled (abandoned : followed.Abandoned key operation)
    (own : followed.IsOwn key operation label)
    (stepped : (system key operation).step followed label = some next) : label = .cancelOff := by
  obtain ⟨lost, found, idle⟩ := abandoned
  have raw : (followed.owner key).offOperations[operation]?.map OffOperation.phase =
      some .recovering := found
  have stepped : followed.step key operation label = some next := stepped
  cases label with
  | cancelOff => rfl
  | cancelSession _ _ _ => cases own
  | entry label =>
    simp only [step, Option.ite_none_left_eq_some] at stepped
    obtain ⟨alive, stepped⟩ := stepped
    obtain ⟨entry, moved, -⟩ := Option.map_eq_some_iff.mp stepped
    cases label with
    | controller other acting sessionId =>
      obtain ⟨rfl, own⟩ := own
      obtain ⟨⟨controller, shared⟩, acted, -⟩ := Option.map_eq_some_iff.mp moved
      have acted : (followed.owner other).step followed.entry.shared acting sessionId =
        some (controller, shared) := acted
      rcases own with own | ⟨saved, -, held⟩
      · cases acting with
        | offServiceReturned current _ | offProofEnded current | offAborted current =>
          obtain rfl : current = operation := by simpa [ControllerLabel.isOffStep] using own
          simp [ZoneController.step, ZoneController.offStep, raw] at acted
        | offDispatch current =>
          obtain rfl : current = operation := by simpa [ControllerLabel.isOffStep] using own
          simp [deadDispatch, lost] at alive
        | _ => cases own
      · simp [idle] at held
    | _ => cases own

theorem Abandoned.step (abandoned : followed.Abandoned key operation)
    (stepped : (system key operation).step followed label = some next) :
    next.Abandoned key operation := by
  by_cases own : followed.IsOwn key operation label
  · obtain rfl := abandoned.cancelled own stepped
    obtain ⟨lost, found, idle⟩ := abandoned
    have there : (followed.owner key).offPhase operation = some .recovering := found
    have stepped : followed.step key operation .cancelOff = some next := stepped
    simp only [FollowedOff.step, ZoneController.cancelOff, there, Option.map_some,
      Option.some.injEq] at stepped
    subst stepped
    refine ⟨by simp, ?_, ?_⟩
    · rw [FollowedOff.phase, owner_withController, if_pos rfl]
      exact there
    · rw [owner_withController, if_pos rfl]
      simp only [ZoneController.releaseOutcome, idle]
      exact idle
  · obtain ⟨lost, found, idle⟩ := abandoned
    have there : (followed.owner key).offPhase operation = some .recovering := found
    have fits : (followed.owner key).OffFits operation := by
      rw [ZoneController.OffFits, there, ZoneController.outcomeLeft, idle]
      rintro _ _ ⟨⟩
    cases step_moved fits stepped with
    | kept _ kept recorded =>
      refine ⟨by rw [recorded]; exact lost, ?_, kept.applying.trans idle⟩
      rcases kept.phase with same | ⟨absent, -⟩
      · exact same.trans found
      · simp [there] at absent
    | own isOwn => exact absurd isOwn own
    | lost cancelled => exact absurd (by rw [cancelled]; trivial) own

/-- Whatever follows, the future of an abandoned operation stays unresolved. -/
theorem Abandoned.unresolved {later : FollowedOff κ}
    (abandoned : followed.Abandoned key operation)
    (reached : (system key operation).Run (fun _ _ _ => True) followed later) :
    ¬ later.Resolved key operation := by
  have still : later.Abandoned key operation :=
    reached.preserves abandoned fun _ _ _ abandoned stepped _ => abandoned.step stepped
  rintro ⟨result, done⟩
  simp [still.phase] at done

/-- OFF is proven and OffConfirmed is half applied.  A second cancellation of its task leaves
the future unresolved for good, and a failed write has it say that OFF was applied. -/
theorem not_offDelivered_interrupted :
    (∃ finish, (system () 0).run ⟨Entry.sampleWatering, {}⟩
        (confirmingLabels true 0 ++ [.cancelOff, .cancelOff]) = some finish ∧
      ∀ later, (system () 0).Run (fun _ _ _ => True) finish later → ¬ later.Resolved () 0) ∧
    ∃ finish, (system () 0).run ⟨Entry.sampleWatering, {}⟩ (confirmingLabels false 1) =
        some finish ∧
      finish.phase () 0 = some (.done true) ∧ ¬ finish.record.Delivers true := by
  constructor
  · obtain ⟨finish, executed, abandoned⟩ := (Option.any_eq_true _ _).mp
      (show ((system () 0).run ⟨Entry.sampleWatering, {}⟩
        (confirmingLabels true 0 ++ [.cancelOff, .cancelOff])).any (fun finish =>
          decide (finish.record.lost = true ∧ finish.phase () 0 = some .recovering ∧
            ((finish.owner ()).outcomeApplying 0).isNone = true)) = true by decide +kernel)
    obtain ⟨lost, found, idle⟩ := of_decide_eq_true abandoned
    have ended : finish.Abandoned () 0 := ⟨lost, found, Option.isNone_iff_eq_none.mp idle⟩
    exact ⟨finish, executed, fun _ reached => ended.unresolved reached⟩
  · obtain ⟨finish, executed, failed⟩ := (Option.any_eq_true _ _).mp
      (show ((system () 0).run ⟨Entry.sampleWatering, {}⟩ (confirmingLabels false 1)).any
        (fun finish => decide (finish.phase () 0 = some (.done true) ∧
          finish.record.deliveries = [⟨true, .writeFailed⟩])) = true by decide +kernel)
    obtain ⟨done, deliveries⟩ := of_decide_eq_true failed
    refine ⟨finish, executed, done, fun delivers => ?_⟩
    have full : finish.record.deliveries = [⟨true, .full⟩] := delivers
    simp [deliveries] at full

end FollowedOff

end MoistureLoop
