import MoistureLoop.Store.Operations

/-! # The global slot manager

FIFO ownership of the one watering slot and the keyed set of blockers.  A grant
needs admission, no owner and an empty blocker set.  Each operation runs under
the manager's lock, so it is one step; a blocker operation includes its write to
the store.

`granted` and `cancelled` are the two ways a future is done.  `served` records history
and decides nothing: the queued requests granted so far, the latest first. -/

namespace MoistureLoop

/-- One `(safety_record_id, reason)` key of the blocker set. -/
abbrev BlockerKey := String × BlockerReason

instance : LawfulBEq BlockerKey := inferInstance

/-- A queued request; its `id` stands for the future that the requester awaits. -/
structure SlotRequest where
  zoneId : String
  id : Nat
  deriving DecidableEq, Repr

/-- Entry-wide configuration admission state. -/
structure ReconciliationBarrier where
  dirty : Bool := false
  reconciling : Bool := false
  failed : Bool := false
  deriving DecidableEq, Repr

def ReconciliationBarrier.clear (barrier : ReconciliationBarrier) : Bool :=
  !(barrier.dirty || barrier.reconciling || barrier.failed)

structure SlotManager where
  owner : Option String := none
  queue : List SlotRequest := []
  granted : List Nat := []
  cancelled : List Nat := []
  served : List SlotRequest := []
  nextRequest : Nat := 0
  blockers : List BlockerKey := []
  unpersistedBlockers : List BlockerKey := []
  grantsEnabled : Bool := false
  reconciliation : ReconciliationBarrier := {}
  deriving DecidableEq, Repr

namespace SlotManager

def blockersEmpty (slots : SlotManager) : Bool := slots.blockers.isEmpty

def admissionOpen (slots : SlotManager) : Bool :=
  slots.grantsEnabled && slots.reconciliation.clear

/-- The queue from the first request whose future nobody has cancelled. -/
def liveQueue (slots : SlotManager) : List SlotRequest :=
  slots.queue.dropWhile fun request => request.id ∈ slots.cancelled

/-- `_try_grant_locked`: offer the slot to the queue head; cancelled heads are dropped. -/
def tryGrant (slots : SlotManager) : SlotManager :=
  if slots.admissionOpen && slots.owner.isNone && slots.blockersEmpty then
    match slots.liveQueue with
    | [] => { slots with queue := [] }
    | request :: rest =>
      { slots with
        owner := some request.zoneId
        queue := rest
        granted := request.id :: slots.granted
        served := request :: slots.served }
  else slots

/-- `async_request`: the handle of the zone's one live request. -/
def request (slots : SlotManager) (zoneId : String) : SlotManager × Nat :=
  if slots.owner = some zoneId then
    ({ slots with
        granted := slots.nextRequest :: slots.granted
        nextRequest := slots.nextRequest + 1 }, slots.nextRequest)
  else
    match slots.queue.find? fun queued => queued.zoneId = zoneId with
    | some queued => (slots, queued.id)
    | none =>
      (tryGrant { slots with
          queue := slots.queue ++ [⟨zoneId, slots.nextRequest⟩]
          nextRequest := slots.nextRequest + 1 }, slots.nextRequest)

/-- `async_cancel_request`. -/
def cancelRequest (slots : SlotManager) (zoneId : String) : SlotManager :=
  { slots with queue := slots.queue.filter fun queued => queued.zoneId ≠ zoneId }

/-- `async_release`: only the current owner is released. -/
def release (slots : SlotManager) (zoneId : String) : SlotManager :=
  if slots.owner = some zoneId then tryGrant { slots with owner := none } else slots

/-- `async_requeue_tail`: the owner gives the slot up and queues again. -/
def requeueTail (slots : SlotManager) (zoneId : String) : SlotManager :=
  if slots.owner = some zoneId then
    tryGrant { slots with
      owner := none
      queue := slots.queue ++ [⟨zoneId, slots.nextRequest⟩]
      nextRequest := slots.nextRequest + 1 }
  else slots

/-- `async_enable_grants`. -/
def enableGrants (slots : SlotManager) : SlotManager :=
  tryGrant { slots with grantsEnabled := true }

/-- `async_disable_grants`. -/
def disableGrants (slots : SlotManager) : SlotManager := { slots with grantsEnabled := false }

/-- `close_admission_now`: the futures of the queue are cancelled. -/
def closeAdmission (slots : SlotManager) : SlotManager :=
  { slots with
    grantsEnabled := false
    queue := []
    cancelled := slots.queue.map SlotRequest.id ++ slots.cancelled }

/-- `async_set_reconciliation_barrier` and `set_reconciliation_state_now`. -/
def setReconciliation (slots : SlotManager) (barrier : ReconciliationBarrier) : SlotManager :=
  tryGrant { slots with reconciliation := barrier }

def addLive (slots : SlotManager) (key : BlockerKey) : SlotManager :=
  { slots with blockers := slots.blockers.insert key }

/-- The key becomes free after its write, and the slot may be granted. -/
def removeLive (slots : SlotManager) (key : BlockerKey) : SlotManager :=
  tryGrant { slots with
    blockers := slots.blockers.filter fun other => other ≠ key
    unpersistedBlockers := slots.unpersistedBlockers.filter fun other => other ≠ key }

/-! ## What an operation leaves unchanged -/

@[simp] theorem tryGrant_blockers (slots : SlotManager) :
    slots.tryGrant.blockers = slots.blockers := by
  unfold tryGrant
  split
  · split <;> rfl
  · rfl

@[simp] theorem release_blockers (slots : SlotManager) (zoneId : String) :
    (slots.release zoneId).blockers = slots.blockers := by
  unfold release
  split <;> simp

@[simp] theorem request_blockers (slots : SlotManager) (zoneId : String) :
    (slots.request zoneId).1.blockers = slots.blockers := by
  unfold request
  split
  · rfl
  · split <;> simp

@[simp] theorem cancelRequest_blockers (slots : SlotManager) (zoneId : String) :
    (slots.cancelRequest zoneId).blockers = slots.blockers := rfl

@[simp] theorem cancelRequest_owner (slots : SlotManager) (zoneId : String) :
    (slots.cancelRequest zoneId).owner = slots.owner := rfl

theorem mem_removeLive_blockers {slots : SlotManager} {key other : BlockerKey} :
    other ∈ (slots.removeLive key).blockers ↔ other ∈ slots.blockers ∧ other ≠ key := by
  simp [removeLive]

theorem mem_addLive_blockers {slots : SlotManager} {key other : BlockerKey} :
    other ∈ (slots.addLive key).blockers ↔ other = key ∨ other ∈ slots.blockers := by
  simp [addLive]

/-- A grant happens only without an owner and without blockers. -/
theorem tryGrant_owner (slots : SlotManager) :
    slots.tryGrant.owner = slots.owner ∨ (slots.owner = none ∧ slots.blockers = []) := by
  unfold tryGrant
  split
  · rename_i free
    simp only [Bool.and_eq_true, Option.isNone_iff_eq_none, blockersEmpty,
      List.isEmpty_iff] at free
    exact .inr ⟨free.1.2, free.2⟩
  · exact .inl rfl

theorem tryGrant_owner_of_blocked {slots : SlotManager}
    (blocked : slots.owner ≠ none ∨ slots.blockers ≠ []) :
    slots.tryGrant.owner = slots.owner := by
  rcases slots.tryGrant_owner with same | ⟨unowned, unblocked⟩
  · exact same
  · exact absurd blocked (by simp [unowned, unblocked])

theorem tryGrant_owner_of_some {slots : SlotManager} {owner : String}
    (owned : slots.owner = some owner) : slots.tryGrant.owner = some owner :=
  (tryGrant_owner_of_blocked (.inl (by simp [owned]))).trans owned

theorem release_owner {slots : SlotManager} {zoneId owner : String}
    (owned : slots.owner = some owner) (other : owner ≠ zoneId) :
    (slots.release zoneId).owner = some owner := by
  unfold release
  rw [if_neg (by simpa [owned] using other)]
  exact owned

theorem request_owner {slots : SlotManager} {zoneId owner : String}
    (owned : slots.owner = some owner) : (slots.request zoneId).1.owner = some owner := by
  unfold request
  split
  · exact owned
  · split
    · exact owned
    · exact tryGrant_owner_of_some owned

end SlotManager

end MoistureLoop
