import MoistureLoop.Controller.OffTask

/-! # The moves of the task of one OFF operation

The task issues at most three commands, dispatches one outcome event and applies it action
by action; a cancellation or an exception sends it to its recovery.  A move is kept unless
it drops an outcome, and kept moves deliver one outcome. -/

open MoistureLoop.Action

namespace MoistureLoop

/-! ## Outcome events -/

def outcomeEvent (confirmedAt : Option Instant) : ControllerEvent :=
  match confirmedAt with
  | some confirmedAt => .offConfirmed confirmedAt
  | none => .offNotConfirmed

/-- The event that the task dispatches next. -/
def OffPhase.outcome : OffPhase → Option ControllerEvent
  | .settling confirmedAt => some (outcomeEvent confirmedAt)
  | .recovering => some .offNotConfirmed
  | _ => none

def OffPhase.isCommanding : OffPhase → Bool
  | .commanding _ => true
  | _ => false

/-- A cancellation here drops an outcome: OffConfirmed is half applied, or the recovery ends. -/
def OffPhase.isUninterruptible : OffPhase → Bool
  | .dispatching (some _) | .recovering => true
  | _ => false

def ControllerEvent.confirmsOff : ControllerEvent → Bool
  | .offConfirmed _ => true
  | _ => false

@[simp] theorem confirmsOff_outcomeEvent (confirmedAt : Option Instant) :
    (outcomeEvent confirmedAt).confirmsOff = confirmedAt.isSome := by
  cases confirmedAt <;> rfl

/-! ## What is recorded of an operation -/

/-- How the application of an outcome event ended. -/
inductive DeliveryEnd where
  /-- Every action of the decision was executed. -/
  | full
  | writeFailed
  | raised
  | cancelled
  deriving DecidableEq, Repr

/-- One outcome event that was decided. -/
structure Delivery where
  confirmed : Bool
  ended : DeliveryEnd
  deriving DecidableEq, Repr

structure OffRecord where
  commands : Nat := 0
  deliveries : List Delivery := []
  /-- The task has ended and its future is not resolved. -/
  lost : Bool := false
  deriving DecidableEq, Repr

/-- The record after a step that took the operation from one phase to another. -/
def OffRecord.after (record : OffRecord) (before after : Option OffPhase)
    (delivered : Option Delivery) : OffRecord :=
  { record with
    commands := record.commands +
      if after.any OffPhase.isCommanding && !before.any OffPhase.isCommanding then 1 else 0
    deliveries := record.deliveries ++ delivered.toList }

/-! ## The moves of the task -/

/-- The phase in which an outcome event is applied. -/
def OffPhase.dispatched : OffPhase → OffPhase
  | .settling confirmedAt => .dispatching confirmedAt
  | other => other

def OffPhase.isSettled : OffPhase → Bool
  | .commanding _ | .awaitingProof _ | .settling _ => false
  | _ => true

/-- One move of the task of an operation, and what it delivers; a move is `kept` unless it
drops an outcome. -/
inductive OffMove : (kept : Bool) → OffPhase → Option (Bool × Nat) → Option Delivery →
    OffPhase → Option (Bool × Nat) → Prop where
  | returned {left : Nat} : OffMove true (.commanding left) none none (.awaitingProof left) none
  | returnedProven {left : Nat} {at' : Instant} :
      OffMove true (.commanding left) none none (.settling (some at')) none
  | proven {left : Nat} {at' : Instant} :
      OffMove true (.awaitingProof left) none none (.settling (some at')) none
  | again {left : Nat} : OffMove true (.awaitingProof (left + 1)) none none (.commanding left) none
  | exhausted : OffMove true (.awaitingProof 0) none none (.settling none) none
  /-- A cancellation or an exception before anything is applied. -/
  | aborted {phase : OffPhase} : phase.isSettled = false →
      OffMove true phase none none .recovering none
  | dispatched {phase : OffPhase} {event : ControllerEvent} {left : Nat} :
      phase.outcome = some event →
      OffMove true phase none none phase.dispatched (some (event.confirmsOff, left))
  | nothing {phase : OffPhase} {event : ControllerEvent} : phase.outcome = some event →
      OffMove true phase none (some ⟨event.confirmsOff, .full⟩) (.done event.confirmsOff) none
  | acted {phase : OffPhase} {confirmed : Bool} {left : Nat} :
      OffMove true phase (some (confirmed, left + 1)) none phase (some (confirmed, left))
  | applied {phase : OffPhase} {confirmed : Bool} :
      OffMove true phase (some (confirmed, 0)) (some ⟨confirmed, .full⟩)
        (phase.afterDispatch false) none
  /-- An action fails its write or raises. -/
  | failed {phase : OffPhase} {confirmed raised : Bool} {left : Nat} {ended : DeliveryEnd} :
      OffMove (!confirmed) phase (some (confirmed, left + 1)) (some ⟨confirmed, ended⟩)
        (phase.afterDispatch raised) none
  | cancelled {confirmedAt : Option Instant} {confirmed : Bool} {left : Nat} :
      OffMove (!confirmedAt.isSome) (.dispatching confirmedAt) (some (confirmed, left))
        (some ⟨confirmedAt.isSome, .cancelled⟩) .recovering none
  /-- The recovery suppresses what its own decision raises. -/
  | dropped : OffMove false .recovering none none (.done false) none

def OffCoherent : Option OffPhase → Option (Bool × Nat) → Prop
  | some (.dispatching confirmedAt), applying =>
    ∃ left, applying = some (confirmedAt.isSome, left)
  | some .recovering, applying => ∀ confirmed left, applying = some (confirmed, left) →
    confirmed = false
  | _, applying => applying = none

theorem OffMove.coherent {kept : Bool} {phase phase' : OffPhase}
    {applying applying' : Option (Bool × Nat)} {delivery : Option Delivery}
    (move : OffMove kept phase applying delivery phase' applying')
    (coherent : OffCoherent (some phase) applying) : OffCoherent (some phase') applying' := by
  cases move with
  | dispatched outcome =>
    cases phase with
    | settling confirmedAt =>
      obtain rfl := Option.some.inj outcome
      simp [OffCoherent, OffPhase.dispatched]
    | recovering =>
      obtain rfl := Option.some.inj outcome
      rintro confirmed left same
      simp_all [ControllerEvent.confirmsOff]
    | _ => cases outcome
  | acted => cases phase <;> simp_all [OffCoherent]
  | applied => cases phase <;> simp_all [OffCoherent, OffPhase.afterDispatch]
  | @failed _ _ raised _ _ =>
    cases phase <;> cases raised <;> simp_all [OffCoherent, OffPhase.afterDispatch]
  | _ => simp [OffCoherent]

/-- How far the task is from its end. -/
def offRank (phase : OffPhase) (applying : Option (Bool × Nat)) : Nat ×ₗ Nat :=
  let stage : Nat := match phase with
    | .commanding left => 2 * left + 6
    | .awaitingProof left => 2 * left + 5
    | .settling _ => 4
    | .dispatching _ => 3
    | .recovering => if applying.isSome then 1 else 2
    | .done _ => 0
  toLex (stage, (applying.map Prod.snd).getD 0)

theorem OffMove.rank_lt {kept : Bool} {phase phase' : OffPhase}
    {applying applying' : Option (Bool × Nat)} {delivery : Option Delivery}
    (move : OffMove kept phase applying delivery phase' applying')
    (coherent : OffCoherent (some phase) applying) :
    offRank phase' applying' < offRank phase applying := by
  rw [Prod.Lex.lt_iff]
  cases move with
  | returned | returnedProven | proven | cancelled | dropped | exhausted => simp [offRank]
  | again =>
    simp only [offRank, ofLex_toLex]
    omega
  | aborted unsettled =>
    cases phase <;> simp_all [offRank, OffPhase.isSettled]
  | dispatched outcome =>
    cases phase <;> simp_all [offRank, OffPhase.outcome, OffPhase.dispatched]
  | nothing outcome => cases phase <;> simp_all [offRank, OffPhase.outcome]
  | acted => cases phase <;> simp_all [offRank]
  | applied => cases phase <;> simp_all [offRank, OffPhase.afterDispatch, OffCoherent]
  | @failed _ _ raised _ _ =>
    cases phase <;> cases raised <;> simp_all [offRank, OffPhase.afterDispatch, OffCoherent]

/-! ## What is recorded at each phase -/

/-- Nothing but OffNotConfirmed has been delivered. -/
def OffRecord.Unconfirmed (record : OffRecord) : Prop :=
  ∀ delivery ∈ record.deliveries, delivery.confirmed = false

/-- OFF is confirmed once and in full, or it is only ever reported unconfirmed. -/
def OffRecord.Delivers (record : OffRecord) : Bool → Prop
  | true => record.deliveries = [⟨true, .full⟩]
  | false => record.deliveries ≠ [] ∧ record.Unconfirmed

/-- The commands that an operation has issued at a phase. -/
def OffRecord.Commanded (record : OffRecord) (phase : OffPhase) : Prop :=
  1 ≤ record.commands ∧ record.commands ≤ offTotalAttempts ∧
    ∀ left, phase = .commanding left ∨ phase = .awaitingProof left →
      record.commands + left = offTotalAttempts

/-- What an operation has delivered at a phase, unless it dropped an outcome. -/
def OffRecord.Delivered (record : OffRecord) : OffPhase → Prop
  | .commanding _ | .awaitingProof _ | .settling _ | .dispatching (some _) =>
    record.deliveries = []
  | .dispatching none | .recovering => record.Unconfirmed
  | .done result => record.Delivers result

theorem OffRecord.Delivered.unconfirmed {record : OffRecord} {phase : OffPhase}
    (delivered : record.Delivered phase) (undone : ∀ result, phase ≠ .done result) :
    record.Unconfirmed := by
  have none_yet : record.deliveries = [] → record.Unconfirmed := by
    rintro nothing delivery member
    simp [nothing] at member
  match phase, delivered with
  | .commanding _, nothing | .awaitingProof _, nothing | .settling _, nothing
  | .dispatching (some _), nothing => exact none_yet nothing
  | .dispatching none, unconfirmed | .recovering, unconfirmed => exact unconfirmed
  | .done result, _ => exact absurd rfl (undone result)

/-- Another OffNotConfirmed is delivered. -/
theorem OffRecord.Unconfirmed.append {record : OffRecord} (unconfirmed : record.Unconfirmed)
    (before after : Option OffPhase) (ended : DeliveryEnd) :
    (record.after before after (some ⟨false, ended⟩)).Delivers false := by
  refine ⟨by simp [OffRecord.after], fun delivery member => ?_⟩
  rcases List.mem_append.mp member with earlier | now
  · exact unconfirmed delivery earlier
  · obtain rfl := List.mem_singleton.mp now
    rfl

theorem OffMove.commanded {kept : Bool} {record : OffRecord} {phase phase' : OffPhase}
    {applying applying' : Option (Bool × Nat)} {delivery : Option Delivery}
    (commanded : record.Commanded phase) (coherent : OffCoherent (some phase) applying)
    (move : OffMove kept phase applying delivery phase' applying') :
    (record.after (some phase) (some phase') delivery).Commanded phase' := by
  obtain ⟨issued, atMost, left⟩ := commanded
  have unchanged : phase'.isCommanding = false → (∀ left, phase' ≠ .awaitingProof left) →
      (record.after (some phase) (some phase') delivery).Commanded phase' := by
    intro idle waits
    refine ⟨by simpa [OffRecord.after, idle] using issued,
      by simpa [OffRecord.after, idle] using atMost, ?_⟩
    rintro left (rfl | rfl)
    · cases idle
    · exact absurd rfl (waits left)
  cases move with
  | returned =>
    have attempts := left _ (.inl rfl)
    exact ⟨issued, atMost, by simpa [OffRecord.after, OffPhase.isCommanding] using attempts⟩
  | again =>
    have attempts := left _ (.inr rfl)
    refine ⟨?_, ?_, ?_⟩
    all_goals simp [OffRecord.after, OffPhase.isCommanding]
    all_goals omega
  | acted => cases phase <;> simp_all [OffCoherent, OffPhase.isCommanding]
  | dispatched outcome =>
    cases phase <;> simp_all [OffPhase.outcome, OffPhase.dispatched, OffPhase.isCommanding]
  | applied =>
    cases phase <;> simp_all [OffCoherent, OffPhase.afterDispatch, OffPhase.isCommanding]
  | @failed _ _ raised _ _ =>
    cases phase <;> cases raised <;>
      simp_all [OffCoherent, OffPhase.afterDispatch, OffPhase.isCommanding]
  | _ => exact unchanged rfl (by simp)

/-- A kept move delivers the outcome once. -/
theorem OffMove.delivered {record : OffRecord} {phase phase' : OffPhase}
    {applying applying' : Option (Bool × Nat)} {delivery : Option Delivery}
    (delivered : record.Delivered phase) (coherent : OffCoherent (some phase) applying)
    (move : OffMove true phase applying delivery phase' applying') :
    (record.after (some phase) (some phase') delivery).Delivered phase' := by
  -- A move that delivers nothing leaves the deliveries as they are.
  have silent : ∀ after, (record.after (some phase) after none).deliveries = record.deliveries :=
    fun _ => List.append_nil _
  have unconfirmed : (∀ result, phase ≠ .done result) → delivery = none →
      (record.after (some phase) (some phase') delivery).Unconfirmed := by
    rintro undone rfl
    rw [OffRecord.Unconfirmed, silent]
    exact delivered.unconfirmed undone
  generalize isKept : true = kept at move
  cases move with
  -- Service calls and waits deliver nothing.
  | returned | returnedProven | proven | exhausted | again => exact (silent _).trans delivered
  | aborted unsettled =>
    refine unconfirmed (fun result done => ?_) rfl
    simp [done, OffPhase.isSettled] at unsettled
  | dispatched outcome =>
    cases phase with
    | settling confirmedAt =>
      cases confirmedAt with
      | some at' => exact (silent _).trans delivered
      | none => exact unconfirmed (by simp) rfl
    | recovering => exact unconfirmed (by simp) rfl
    | _ => cases outcome
  -- The outcome was decided and is a no-op.
  | nothing outcome =>
    cases phase with
    | settling confirmedAt =>
      obtain rfl := Option.some.inj outcome
      cases confirmedAt with
      | some at' =>
        have nothing : record.deliveries = [] := delivered
        simp [OffRecord.Delivered, OffRecord.Delivers, OffRecord.after, nothing]
      | none => exact (delivered.unconfirmed (by simp)).append _ _ _
    | recovering =>
      obtain rfl := Option.some.inj outcome
      exact (delivered.unconfirmed (by simp)).append _ _ _
    | _ => cases outcome
  | @acted _ confirmed left =>
    cases phase with
    | dispatching confirmedAt =>
      cases confirmedAt with
      | some at' => exact (silent _).trans delivered
      | none => exact unconfirmed (by simp) rfl
    | recovering => exact unconfirmed (by simp) rfl
    | _ => cases coherent
  -- The application of the outcome ends.
  | @applied _ confirmed =>
    cases phase with
    | dispatching confirmedAt =>
      obtain ⟨left, same⟩ := coherent
      obtain ⟨rfl, -⟩ := Prod.mk.inj (Option.some.inj same)
      cases confirmedAt with
      | some at' =>
        have nothing : record.deliveries = [] := delivered
        simp [OffPhase.afterDispatch, OffRecord.Delivered, OffRecord.Delivers, OffRecord.after,
          nothing]
      | none => exact (delivered.unconfirmed (by simp)).append _ _ _
    | recovering =>
      obtain rfl := coherent _ _ rfl
      exact (delivered.unconfirmed (by simp)).append _ _ _
    | _ => cases coherent
  -- It raised: a refused confirmation sends the task into its recovery.
  | @failed _ confirmed raised _ _ =>
    obtain rfl : confirmed = false := by simpa using isKept
    cases phase with
    | dispatching confirmedAt =>
      obtain ⟨left, same⟩ := coherent
      obtain ⟨refuting, -⟩ := Prod.mk.inj (Option.some.inj same)
      obtain rfl : confirmedAt = none := by simpa using refuting.symm
      have refuted := fun after ended =>
        (delivered.unconfirmed (by simp)).append (some (.dispatching none)) after ended
      cases raised with
      | true => exact (refuted _ _).2
      | false => exact refuted _ _
    | recovering => exact (delivered.unconfirmed (by simp)).append _ _ _
    | _ => cases coherent
  -- It was cancelled, which the guard allows for a refutation only.
  | @cancelled confirmedAt _ _ =>
    obtain rfl : confirmedAt = none := by simpa using isKept
    exact ((delivered.unconfirmed (by simp)).append _ _ _).2
  | dropped => cases isKept

end MoistureLoop
