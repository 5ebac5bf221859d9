import MoistureLoop.SlotManager
import MoistureLoop.Foundations.Guarded

/-! # Runs of the slot manager

The manager's lock is held across one kind of `await` only: the blocker persistence of
`async_add_blocker` and `async_remove_blocker`.  While such a write is pending, the other
coroutines wait for the lock, but `set_reconciliation_state_now`, `close_admission_now` and
the cancellation of a future still run, and the write may fail. -/

namespace MoistureLoop

inductive BlockerWrite where
  | adding (key : BlockerKey)
  | removing (key : BlockerKey)
  deriving DecidableEq, Repr

def BlockerWrite.key : BlockerWrite → BlockerKey
  | adding key | removing key => key

structure SlotRun where
  slots : SlotManager := {}
  suspended : Option BlockerWrite := none
  deriving DecidableEq, Repr

inductive SlotLabel where
  | addBlocker (key : BlockerKey)
  | removeBlocker (key : BlockerKey)
  /-- The pending blocker write returned, or raised. -/
  | persisted (saved : Bool)
  | enableGrants
  | disableGrants
  | setReconciliationBarrier (barrier : ReconciliationBarrier)
  | setReconciliationStateNow (barrier : ReconciliationBarrier)
  | closeAdmissionNow
  | request (zoneId : String)
  | cancelRequest (zoneId : String)
  | release (zoneId : String)
  | requeueTail (zoneId : String)
  /-- The task that awaits the future is cancelled. -/
  | cancelFuture (request : Nat)
  deriving DecidableEq, Repr

namespace SlotManager

def cancelFuture (slots : SlotManager) (request : Nat) : SlotManager :=
  if request ∈ slots.granted then slots
  else { slots with cancelled := request :: slots.cancelled }

/-- The key is live and not known to be stored while its write is pending. -/
def beginAdd (slots : SlotManager) (key : BlockerKey) : SlotManager :=
  { slots.addLive key with unpersistedBlockers := slots.unpersistedBlockers.insert key }

/-- The write of a live key succeeded. -/
def finishAdd (slots : SlotManager) (key : BlockerKey) : SlotManager :=
  { slots with
    unpersistedBlockers := slots.unpersistedBlockers.filter fun other => other ≠ key }

end SlotManager

namespace SlotRun

/-- An operation that runs under the lock without an `await`. -/
def locked (run : SlotRun) (slots : SlotManager) : Option SlotRun :=
  if run.suspended = none then some { run with slots := slots } else none

def step (run : SlotRun) : SlotLabel → Option SlotRun
  | .addBlocker key =>
    if run.suspended = none then
      if key ∈ run.slots.blockers ∧ key ∉ run.slots.unpersistedBlockers then some run
      else some { slots := run.slots.beginAdd key, suspended := some (.adding key) }
    else none
  | .removeBlocker key =>
    if run.suspended = none then
      if key ∈ run.slots.blockers then some { run with suspended := some (.removing key) }
      else some run
    else none
  | .persisted saved =>
    match run.suspended with
    | none => none
    | some (.adding key) =>
      some { slots := if saved then run.slots.finishAdd key else run.slots }
    | some (.removing key) =>
      some { slots := if saved then run.slots.removeLive key else run.slots }
  | .enableGrants => run.locked run.slots.enableGrants
  | .disableGrants => run.locked run.slots.disableGrants
  | .setReconciliationBarrier barrier => run.locked (run.slots.setReconciliation barrier)
  | .setReconciliationStateNow barrier =>
    some { run with slots := run.slots.setReconciliation barrier }
  | .closeAdmissionNow => some { run with slots := run.slots.closeAdmission }
  | .request zoneId => run.locked (run.slots.request zoneId).1
  | .cancelRequest zoneId => run.locked (run.slots.cancelRequest zoneId)
  | .release zoneId => run.locked (run.slots.release zoneId)
  | .requeueTail zoneId => run.locked (run.slots.requeueTail zoneId)
  | .cancelFuture request => some { run with slots := run.slots.cancelFuture request }

def system : LabelledSystem SlotRun SlotLabel := ⟨step⟩

end SlotRun

namespace SlotManager

variable {slots : SlotManager}

/-! ## The grant decision -/

/-- Nothing stands in the way of a grant. -/
structure Grantable (slots : SlotManager) : Prop where
  enabled : slots.grantsEnabled = true
  clear : slots.reconciliation.clear = true
  unowned : slots.owner = none
  unblocked : slots.blockers = []

/-- `tryGrant` does nothing, drops a queue of cancelled requests, or serves the first
request that is not cancelled. -/
theorem tryGrant_cases (slots : SlotManager) :
    slots.tryGrant = slots ∨
      slots.Grantable ∧ (∀ queued ∈ slots.queue, queued.id ∈ slots.cancelled) ∧
        slots.tryGrant = { slots with queue := [] } ∨
      slots.Grantable ∧ ∃ skipped request rest, slots.queue = skipped ++ request :: rest ∧
        (∀ queued ∈ skipped, queued.id ∈ slots.cancelled) ∧ request.id ∉ slots.cancelled ∧
        slots.tryGrant = { slots with
          owner := some request.zoneId
          queue := rest
          granted := request.id :: slots.granted
          served := request :: slots.served } := by
  unfold tryGrant
  split
  · rename_i free
    simp only [admissionOpen, blockersEmpty, Bool.and_eq_true, Option.isNone_iff_eq_none,
      List.isEmpty_iff] at free
    have grantable : slots.Grantable := ⟨free.1.1.1, free.1.1.2, free.1.2, free.2⟩
    have split : slots.queue = _ ++ slots.liveQueue := (List.takeWhile_append_dropWhile).symm
    have skipped : ∀ queued ∈ slots.queue.takeWhile fun request => request.id ∈ slots.cancelled,
        queued.id ∈ slots.cancelled := by
      intro queued member
      simpa using List.mem_takeWhile_imp member
    cases live : slots.liveQueue with
    | nil =>
      rw [live, List.append_nil] at split
      rw [← split] at skipped
      exact .inr (.inl ⟨grantable, skipped, rfl⟩)
    | cons request rest =>
      rw [live] at split
      refine .inr (.inr ⟨grantable, _, request, rest, split, skipped, ?_, rfl⟩)
      have first := List.head?_dropWhile_not (fun request => decide (request.id ∈ slots.cancelled))
        slots.queue
      unfold liveQueue at live
      simpa [live] using first
  · exact .inl rfl

/-! ## The queue -/

/-- The queue holds one request per zone, none of the owner, in order of arrival, and no
request was served before an older one that still waits. -/
structure Fifo (slots : SlotManager) : Prop where
  ordered : slots.queue.Pairwise fun first second => first.id < second.id
  zones : (slots.queue.map SlotRequest.zoneId).Nodup
  unowned : ∀ queued ∈ slots.queue, slots.owner ≠ some queued.zoneId
  numbered : ∀ queued ∈ slots.queue, queued.id < slots.nextRequest
  servedOrdered : slots.served.Pairwise fun later earlier => earlier.id < later.id
  servedFirst : ∀ served ∈ slots.served, ∀ queued ∈ slots.queue, served.id < queued.id
  servedNumbered : ∀ served ∈ slots.served, served.id < slots.nextRequest

/-- Withdrawing requests and giving up ownership keep the order. -/
theorem Fifo.of_sublist {next : SlotManager} (fifo : slots.Fifo)
    (queue : next.queue.Sublist slots.queue)
    (owner : next.owner = none ∨ next.owner = slots.owner)
    (served : next.served = slots.served) (numbers : next.nextRequest = slots.nextRequest) :
    next.Fifo where
  ordered := fifo.ordered.sublist queue
  zones := fifo.zones.sublist (queue.map _)
  unowned queued member := by
    rcases owner with unowned | same
    · simp [unowned]
    · rw [same]
      exact fifo.unowned queued (queue.subset member)
  numbered queued member := numbers ▸ fifo.numbered queued (queue.subset member)
  servedOrdered := served ▸ fifo.servedOrdered
  servedFirst request member queued waiting :=
    fifo.servedFirst request (served ▸ member) queued (queue.subset waiting)
  servedNumbered request member := numbers ▸ fifo.servedNumbered request (served ▸ member)

/-- A new request of a zone that neither owns the slot nor waits goes to the tail. -/
theorem Fifo.push (fifo : slots.Fifo) {zoneId : String} (owner : slots.owner ≠ some zoneId)
    (fresh : ∀ queued ∈ slots.queue, queued.zoneId ≠ zoneId) :
    Fifo { slots with
      queue := slots.queue ++ [⟨zoneId, slots.nextRequest⟩]
      nextRequest := slots.nextRequest + 1 } where
  ordered := by
    rw [List.pairwise_append]
    refine ⟨fifo.ordered, List.pairwise_singleton _ _, fun queued member last isLast => ?_⟩
    rw [List.mem_singleton] at isLast
    exact isLast ▸ fifo.numbered queued member
  zones := by
    rw [List.map_append, List.nodup_append]
    refine ⟨fifo.zones, List.nodup_singleton _, fun zone member last isLast => ?_⟩
    obtain ⟨queued, waiting, rfl⟩ := List.mem_map.mp member
    rw [List.map_singleton, List.mem_singleton] at isLast
    exact isLast ▸ fresh queued waiting
  unowned queued member := by
    rcases List.mem_append.mp member with waiting | isLast
    · exact fifo.unowned queued waiting
    · obtain rfl := List.mem_singleton.mp isLast
      exact owner
  numbered queued member := by
    rcases List.mem_append.mp member with waiting | isLast
    · exact Nat.lt_succ_of_lt (fifo.numbered queued waiting)
    · obtain rfl := List.mem_singleton.mp isLast
      exact Nat.lt_succ_self _
  servedOrdered := fifo.servedOrdered
  servedFirst request member queued waiting := by
    rcases List.mem_append.mp waiting with waits | isLast
    · exact fifo.servedFirst request member queued waits
    · exact List.mem_singleton.mp isLast ▸ fifo.servedNumbered request member
  servedNumbered request member := Nat.lt_succ_of_lt (fifo.servedNumbered request member)

/-- Serving the first request that is not cancelled keeps the order. -/
theorem Fifo.tryGrant (fifo : slots.Fifo) : slots.tryGrant.Fifo := by
  rcases slots.tryGrant_cases with same | ⟨-, -, dropped⟩ |
    ⟨-, skipped, request, rest, queue, -, -, granted⟩
  · rwa [same]
  · rw [dropped]
    exact fifo.of_sublist (List.nil_sublist _) (.inr rfl) rfl rfl
  · rw [granted]
    have waits : request ∈ slots.queue := by simp [queue]
    have behind : ∀ queued ∈ rest, queued ∈ slots.queue := by simp +contextual [queue]
    have ordered := fifo.ordered
    have zones := fifo.zones
    rw [queue, List.pairwise_append, List.pairwise_cons] at ordered
    rw [queue, List.map_append, List.map_cons, List.nodup_append, List.nodup_cons] at zones
    exact {
      ordered := ordered.2.1.2
      zones := zones.2.1.2
      unowned := by
        intro queued member same
        have zone : request.zoneId = queued.zoneId := Option.some.inj same
        exact zones.2.1.1 (zone ▸ List.mem_map_of_mem member)
      numbered := fun queued member => fifo.numbered queued (behind queued member)
      servedOrdered := List.pairwise_cons.mpr
        ⟨fun earlier member => fifo.servedFirst earlier member request waits, fifo.servedOrdered⟩
      servedFirst := by
        intro served member queued waiting
        rcases List.mem_cons.mp member with rfl | before
        · exact ordered.2.1.1 queued waiting
        · exact fifo.servedFirst served before queued (behind queued waiting)
      servedNumbered := by
        intro served member
        rcases List.mem_cons.mp member with rfl | before
        · exact fifo.numbered served waits
        · exact fifo.servedNumbered served before }

theorem Fifo.request (fifo : slots.Fifo) (zoneId : String) : (slots.request zoneId).1.Fifo := by
  unfold SlotManager.request
  split
  · exact {
      fifo with
      numbered := fun queued member => Nat.lt_succ_of_lt (fifo.numbered queued member)
      servedNumbered := fun served member => Nat.lt_succ_of_lt (fifo.servedNumbered served member) }
  · rename_i owner
    split
    · exact fifo
    · rename_i absent
      exact (fifo.push owner (by simpa using absent)).tryGrant

theorem Fifo.release (fifo : slots.Fifo) (zoneId : String) : (slots.release zoneId).Fifo := by
  unfold SlotManager.release
  split
  · have released : Fifo { slots with owner := none } :=
      fifo.of_sublist (List.Sublist.refl _) (.inl rfl) rfl rfl
    exact released.tryGrant
  · exact fifo

/-- The owner may queue again: it has no request in the queue. -/
theorem Fifo.requeueTail (fifo : slots.Fifo) (zoneId : String) :
    (slots.requeueTail zoneId).Fifo := by
  unfold SlotManager.requeueTail
  split
  · rename_i owned
    have released : Fifo { slots with owner := none } :=
      fifo.of_sublist (List.Sublist.refl _) (.inl rfl) rfl rfl
    refine (released.push (by simp) fun queued member same => ?_).tryGrant
    exact fifo.unowned queued member (same ▸ owned)
  · exact fifo

/-! ## The futures -/

/-- Resolved futures are numbered, a served request is granted, and a queued one is not. -/
structure Handles (slots : SlotManager) : Prop where
  served : ∀ request ∈ slots.served, request.id ∈ slots.granted
  waiting : ∀ queued ∈ slots.queue, queued.id ∉ slots.granted
  granted : ∀ request ∈ slots.granted, request < slots.nextRequest

theorem Handles.tryGrant (handles : slots.Handles)
    (ordered : slots.queue.Pairwise fun first second => first.id < second.id)
    (numbered : ∀ queued ∈ slots.queue, queued.id < slots.nextRequest) :
    slots.tryGrant.Handles := by
  rcases slots.tryGrant_cases with same | ⟨-, -, dropped⟩ |
    ⟨-, skipped, request, rest, queue, -, -, granted⟩
  · rwa [same]
  · rw [dropped]
    exact { handles with waiting := by simp }
  · have waits : request ∈ slots.queue := by simp [queue]
    rw [queue, List.pairwise_append, List.pairwise_cons] at ordered
    rw [granted]
    exact {
      served := by
        intro served member
        rcases List.mem_cons.mp member with rfl | before
        · exact List.mem_cons_self
        · exact List.mem_cons_of_mem _ (handles.served served before)
      waiting := by
        intro queued member done
        rcases List.mem_cons.mp done with same | before
        · exact absurd (ordered.2.1.1 queued member) (by simp [same])
        · exact handles.waiting queued (by simp [queue, show queued ∈ rest from member]) before
      granted := by
        intro other done
        rcases List.mem_cons.mp done with rfl | before
        · exact numbered request waits
        · exact handles.granted other before }

/-- Only the queue got shorter. -/
theorem Handles.of_subset {next : SlotManager} (handles : slots.Handles)
    (queue : ∀ queued ∈ next.queue, queued ∈ slots.queue) (served : next.served = slots.served)
    (granted : next.granted = slots.granted) (numbers : next.nextRequest = slots.nextRequest) :
    next.Handles where
  served request member := granted ▸ handles.served request (served ▸ member)
  waiting queued member := granted ▸ handles.waiting queued (queue queued member)
  granted request member := numbers ▸ handles.granted request (granted ▸ member)

/-- A fresh request is numbered and nobody has resolved it. -/
theorem Handles.push (handles : slots.Handles) (zoneId : String) :
    Handles { slots with
      queue := slots.queue ++ [⟨zoneId, slots.nextRequest⟩]
      nextRequest := slots.nextRequest + 1 } where
  served := handles.served
  waiting queued member done := by
    rcases List.mem_append.mp member with before | isLast
    · exact handles.waiting queued before done
    · obtain rfl := List.mem_singleton.mp isLast
      exact lt_irrefl _ (handles.granted _ done)
  granted request member := Nat.lt_succ_of_lt (handles.granted request member)

/-- A fresh future that is resolved at once. -/
theorem Handles.resolveNext (handles : slots.Handles)
    (numbered : ∀ queued ∈ slots.queue, queued.id < slots.nextRequest) :
    Handles { slots with
      granted := slots.nextRequest :: slots.granted
      nextRequest := slots.nextRequest + 1 } where
  served request member := List.mem_cons_of_mem _ (handles.served request member)
  waiting queued member done := by
    rcases List.mem_cons.mp done with same | before
    · exact absurd (numbered queued member) (by simp [same])
    · exact handles.waiting queued member before
  granted request member := by
    rcases List.mem_cons.mp member with rfl | before
    · exact Nat.lt_succ_self _
    · exact Nat.lt_succ_of_lt (handles.granted request before)

end SlotManager

/-! ## What one step can do -/

namespace SlotLabel

def releases : SlotLabel → Option String
  | release zoneId | requeueTail zoneId => some zoneId
  | _ => none

def withdraws : SlotLabel → Option String
  | cancelRequest zoneId => some zoneId
  | _ => none

def queues : SlotLabel → Option String
  | request zoneId | requeueTail zoneId => some zoneId
  | _ => none

def touches (run : SlotRun) : SlotLabel → Option BlockerKey
  | addBlocker key | removeBlocker key => some key
  | persisted _ => run.suspended.map BlockerWrite.key
  | _ => none

end SlotLabel

/-- The step grants the slot to the request: it resolves the future of this request, which waits
or is queued by the step itself, with admission open, no blocker and nobody to take the slot
from; and no older request is passed over. -/
structure Serves (run : SlotRun) (label : SlotLabel) (after : SlotManager) (request : SlotRequest) :
    Prop where
  waits : request ∈ run.slots.queue ∨
    label.queues = some request.zoneId ∧ request.id = run.slots.nextRequest
  resolved : request.id ∈ after.granted ∧ request.id ∉ run.slots.granted
  owner : after.owner = some request.zoneId
  free : run.slots.owner = none ∨ run.slots.owner = label.releases
  grantable : after.grantsEnabled = true ∧ after.reconciliation.clear = true ∧ after.blockers = []
  first : ∀ queued ∈ run.slots.queue, queued.id < request.id →
    queued.id ∈ after.cancelled ∨ label.withdraws = some queued.zoneId
  ahead : ∀ queued ∈ after.queue, request.id < queued.id

/-- The owner asks again and gets a future that is resolved at once. -/
structure RepeatsGrant (run : SlotRun) (label : SlotLabel) (after : SlotManager) (handle : Nat) :
    Prop where
  asks : ∃ zoneId, label = .request zoneId ∧ run.slots.owner = some zoneId ∧
    after.owner = some zoneId
  fresh : handle = run.slots.nextRequest

/-- What every operation of the manager respects, whatever else is suspended. -/
structure SlotStep (run : SlotRun) (label : SlotLabel) (after : SlotManager) : Prop where
  fifo : after.Fifo
  handles : after.Handles
  /-- A future is resolved for the request that is granted the slot, or for its owner. -/
  grants : ∀ handle ∈ after.granted, handle ∉ run.slots.granted →
    (∃ request, request.id = handle ∧ Serves run label after request) ∨
      RepeatsGrant run label after handle
  /-- At most one future is resolved, and none becomes unresolved. -/
  single : ∀ handle ∈ after.granted, ∀ other ∈ after.granted, handle ∉ run.slots.granted →
    other ∉ run.slots.granted → handle = other
  stays : ∀ handle ∈ run.slots.granted, handle ∈ after.granted
  /-- The slot changes hands only through its owner. -/
  keeps : ∀ zoneId, run.slots.owner = some zoneId →
    after.owner = some zoneId ∨ label.releases = some zoneId
  /-- Whoever comes to own the slot was granted it. -/
  owns : ∀ zoneId, after.owner = some zoneId → run.slots.owner = some zoneId ∨
    ∃ request, request.zoneId = zoneId ∧ Serves run label after request
  /-- A waiting request leaves the queue only granted, cancelled or withdrawn. -/
  leaves : ∀ queued ∈ run.slots.queue, queued ∈ after.queue ∨ queued.id ∈ after.granted ∨
    queued.id ∈ after.cancelled ∨ label.withdraws = some queued.zoneId
  /-- The other keys stay as they are. -/
  others : ∀ key, label.touches run ≠ some key →
    (key ∈ after.blockers ↔ key ∈ run.slots.blockers) ∧
      (key ∈ after.unpersistedBlockers ↔ key ∈ run.slots.unpersistedBlockers)
  /-- A failed write leaves its key live. -/
  failed : label = .persisted false → ∀ key, label.touches run = some key → key ∈ after.blockers

/-- What an operation does to the manager before it decides a grant. -/
structure Prepares (run : SlotRun) (label : SlotLabel) (prepared : SlotManager) : Prop where
  fifo : prepared.Fifo
  handles : prepared.Handles
  granted : prepared.granted = run.slots.granted ∨
    prepared.granted = run.slots.nextRequest :: run.slots.granted ∧
      RepeatsGrant run label prepared run.slots.nextRequest
  owner : prepared.owner = run.slots.owner ∨
    prepared.owner = none ∧ run.slots.owner = label.releases
  queue : ∀ queued ∈ run.slots.queue, queued ∈ prepared.queue ∨ queued.id ∈ prepared.cancelled ∨
    label.withdraws = some queued.zoneId
  offered : ∀ queued ∈ prepared.queue, queued ∈ run.slots.queue ∨
    label.queues = some queued.zoneId ∧ queued.id = run.slots.nextRequest
  others : ∀ key, label.touches run ≠ some key →
    (key ∈ prepared.blockers ↔ key ∈ run.slots.blockers) ∧
      (key ∈ prepared.unpersistedBlockers ↔ key ∈ run.slots.unpersistedBlockers)
  failed : label = .persisted false → ∀ key, label.touches run = some key →
    key ∈ prepared.blockers

namespace Prepares

variable {run : SlotRun} {label : SlotLabel} {prepared : SlotManager}

/-- An operation that decides no grant. -/
theorem slotStep (prepares : Prepares run label prepared) : SlotStep run label prepared where
  fifo := prepares.fifo
  handles := prepares.handles
  grants handle done new := by
    rcases prepares.granted with same | ⟨added, repeats⟩
    · exact absurd (same ▸ done) new
    · rw [added] at done
      obtain rfl := (List.mem_cons.mp done).resolve_right new
      exact .inr repeats
  single handle done other done' new new' := by
    rcases prepares.granted with same | ⟨added, -⟩
    · exact absurd (same ▸ done) new
    · rw [added] at done done'
      exact ((List.mem_cons.mp done).resolve_right new).trans
        ((List.mem_cons.mp done').resolve_right new').symm
  stays handle done := by
    rcases prepares.granted with same | ⟨added, -⟩
    · exact same ▸ done
    · exact added ▸ List.mem_cons_of_mem _ done
  keeps zoneId owned := by
    rcases prepares.owner with same | ⟨-, released⟩
    · exact .inl (same ▸ owned)
    · exact .inr (released ▸ owned)
  owns zoneId owned := by
    rcases prepares.owner with same | ⟨unowned, -⟩
    · exact .inl (same ▸ owned)
    · simp [unowned] at owned
  leaves queued waiting := by
    rcases prepares.queue queued waiting with waits | gone
    · exact .inl waits
    · exact .inr (.inr gone)
  others := prepares.others
  failed := prepares.failed

/-- The request that the grant decision serves: the first one that nobody has cancelled. -/
theorem serves (prepares : Prepares run label prepared) (grantable : prepared.Grantable)
    {skipped rest : List SlotRequest} {request : SlotRequest}
    (queue : prepared.queue = skipped ++ request :: rest)
    (passed : ∀ queued ∈ skipped, queued.id ∈ prepared.cancelled)
    (granted : prepared.granted = run.slots.granted) :
    Serves run label { prepared with
      owner := some request.zoneId
      queue := rest
      granted := request.id :: prepared.granted
      served := request :: prepared.served } request where
  waits := prepares.offered request (by simp [queue])
  resolved := ⟨List.mem_cons_self,
    granted ▸ prepares.handles.waiting request (by simp [queue])⟩
  owner := rfl
  free := by
    rcases prepares.owner with same | ⟨-, released⟩
    · exact .inl (same ▸ grantable.unowned)
    · exact .inr released
  grantable := ⟨grantable.enabled, grantable.clear, grantable.unblocked⟩
  first queued waiting older := by
    rcases prepares.queue queued waiting with still | gone
    · -- An older request that still waits stands among the skipped ones.
      have ordered := prepares.fifo.ordered
      rw [queue, List.pairwise_append, List.pairwise_cons] at ordered
      rw [queue, List.mem_append, List.mem_cons] at still
      rcases still with before | rfl | behind
      · exact .inl (passed queued before)
      · exact absurd older (lt_irrefl _)
      · exact absurd (ordered.2.1.1 queued behind) (by omega)
    · exact gone
  ahead queued waiting := by
    have ordered := prepares.fifo.ordered
    rw [queue, List.pairwise_append, List.pairwise_cons] at ordered
    exact ordered.2.1.1 queued waiting

/-- An operation that ends with the grant decision. -/
theorem tryGrant (prepares : Prepares run label prepared) :
    SlotStep run label prepared.tryGrant := by
  have fifo := prepares.fifo.tryGrant
  have handles := prepares.handles.tryGrant prepares.fifo.ordered prepares.fifo.numbered
  rcases prepared.tryGrant_cases with same | ⟨-, cancelled, dropped⟩ |
    ⟨grantable, skipped, request, rest, queue, passed, -, granted⟩
  · rw [same]
    exact prepares.slotStep
  · rw [dropped] at fifo handles ⊢
    refine { prepares.slotStep with
      fifo := fifo
      handles := handles
      grants := fun handle done new => (prepares.slotStep.grants handle done new).imp ?_ ?_
      owns := fun zoneId owned => (prepares.slotStep.owns zoneId owned).imp id ?_
      leaves := fun queued waiting => ?_ }
    · exact fun ⟨request, same, serves⟩ => ⟨request, same, { serves with ahead := by simp }⟩
    · exact fun repeats => ⟨repeats.asks, repeats.fresh⟩
    · exact fun ⟨request, same, serves⟩ => ⟨request, same, { serves with ahead := by simp }⟩
    · rcases prepares.queue queued waiting with waits | gone
      · exact .inr (.inr (.inl (cancelled queued waits)))
      · exact .inr (.inr gone)
  · -- Nobody owns the slot, so the step is no repeated grant.
    have unrepeated : prepared.granted = run.slots.granted := by
      rcases prepares.granted with same | ⟨-, ⟨zoneId, -, -, owned⟩, -⟩
      · exact same
      · simp [grantable.unowned] at owned
    have serves := prepares.serves grantable queue passed unrepeated
    rw [granted] at fifo handles ⊢
    exact {
      fifo := fifo
      handles := handles
      grants := by
        intro handle done new
        obtain rfl := (List.mem_cons.mp done).resolve_right (unrepeated ▸ new)
        exact .inl ⟨request, rfl, serves⟩
      single := by
        intro handle done other done' new new'
        exact ((List.mem_cons.mp done).resolve_right (unrepeated ▸ new)).trans
          ((List.mem_cons.mp done').resolve_right (unrepeated ▸ new')).symm
      stays := fun handle done => List.mem_cons_of_mem _ (unrepeated ▸ done)
      keeps := by
        intro zoneId owned
        rcases serves.free with none | released
        · simp [none] at owned
        · exact .inr (released ▸ owned)
      owns := fun zoneId owned => .inr ⟨request, Option.some.inj owned, serves⟩
      leaves := by
        intro queued waiting
        rcases prepares.queue queued waiting with still | gone
        · rw [queue, List.mem_append, List.mem_cons] at still
          rcases still with before | rfl | behind
          · exact .inr (.inr (.inl (passed queued before)))
          · exact .inr (.inl List.mem_cons_self)
          · exact .inl behind
        · exact .inr (.inr gone)
      others := prepares.others
      failed := prepares.failed }

end Prepares

namespace SlotRun

variable {run : SlotRun}

theorem locked_eq_some {slots : SlotManager} {next : SlotRun}
    (stepped : run.locked slots = some next) :
    run.suspended = none ∧ next = { run with slots := slots } := by
  unfold locked at stepped
  split at stepped
  · rename_i free
    exact ⟨free, (Option.some.inj stepped).symm⟩
  · cases stepped

/-- The state the proofs carry: queue and futures are in order, and the key of a pending write
is live. -/
structure Safe (run : SlotRun) : Prop where
  fifo : run.slots.Fifo
  handles : run.slots.Handles
  pending : ∀ write, run.suspended = some write → write.key ∈ run.slots.blockers

/-- An operation that resolves no future itself, leaves the blockers alone and is no failed
write. -/
theorem Safe.prepares (safe : run.Safe) {label : SlotLabel} {prepared : SlotManager}
    (fifo : prepared.Fifo) (handles : prepared.Handles)
    (granted : prepared.granted = run.slots.granted)
    (owner : prepared.owner = run.slots.owner ∨
      prepared.owner = none ∧ run.slots.owner = label.releases)
    (queue : ∀ queued ∈ run.slots.queue, queued ∈ prepared.queue ∨
      queued.id ∈ prepared.cancelled ∨ label.withdraws = some queued.zoneId)
    (offered : ∀ queued ∈ prepared.queue, queued ∈ run.slots.queue ∨
      label.queues = some queued.zoneId ∧ queued.id = run.slots.nextRequest)
    (blockers : prepared.blockers = run.slots.blockers)
    (unpersisted : prepared.unpersistedBlockers = run.slots.unpersistedBlockers) :
    Prepares run label prepared where
  fifo := fifo
  handles := handles
  granted := .inl granted
  owner := owner
  queue := queue
  offered := offered
  others key _ := by rw [blockers, unpersisted]; exact ⟨Iff.rfl, Iff.rfl⟩
  failed failing key touched := by
    subst failing
    obtain ⟨write, pending, rfl⟩ := Option.map_eq_some_iff.mp touched
    exact blockers ▸ safe.pending write pending

/-- The manager as it is. -/
theorem Safe.unchanged (safe : run.Safe) (label : SlotLabel) :
    Prepares run label run.slots :=
  safe.prepares safe.fifo safe.handles rfl (.inl rfl) (fun _ waiting => .inl waiting)
    (fun _ waiting => .inl waiting) rfl rfl

theorem Safe.addBlocker (safe : run.Safe) (key : BlockerKey) :
    Prepares run (.addBlocker key) (run.slots.beginAdd key) where
  fifo := safe.fifo.of_sublist (List.Sublist.refl _) (.inr rfl) rfl rfl
  handles := safe.handles.of_subset (fun _ waiting => waiting) rfl rfl rfl
  granted := .inl rfl
  owner := .inl rfl
  queue _ waiting := .inl waiting
  offered _ waiting := .inl waiting
  others other different := by
    have distinct : other ≠ key := fun same => different (by rw [SlotLabel.touches, same])
    simp [SlotManager.beginAdd, SlotManager.addLive, distinct]
  failed failing := by cases failing

theorem Safe.added (safe : run.Safe) {key : BlockerKey}
    (pending : run.suspended = some (.adding key)) (saved : Bool) :
    Prepares run (.persisted saved) (if saved then run.slots.finishAdd key else run.slots) := by
  cases saved with
  | false => exact safe.unchanged _
  | true =>
    exact {
      fifo := safe.fifo.of_sublist (List.Sublist.refl _) (.inr rfl) rfl rfl
      handles := safe.handles.of_subset (fun _ waiting => waiting) rfl rfl rfl
      granted := .inl rfl
      owner := .inl rfl
      queue := fun _ waiting => .inl waiting
      offered := fun _ waiting => .inl waiting
      others := by
        intro other different
        have distinct : other ≠ key := fun same =>
          different (by rw [SlotLabel.touches, pending, same]; rfl)
        simp [SlotManager.finishAdd, distinct]
      failed := by intro failing; cases failing }

/-- The pending write of a removed key succeeded; its grant decision comes next. -/
theorem Safe.removed (safe : run.Safe) {key : BlockerKey}
    (pending : run.suspended = some (.removing key)) :
    Prepares run (.persisted true) { run.slots with
      blockers := run.slots.blockers.filter fun other => other ≠ key
      unpersistedBlockers := run.slots.unpersistedBlockers.filter fun other => other ≠ key } where
  fifo := safe.fifo.of_sublist (List.Sublist.refl _) (.inr rfl) rfl rfl
  handles := safe.handles.of_subset (fun _ waiting => waiting) rfl rfl rfl
  granted := .inl rfl
  owner := .inl rfl
  queue _ waiting := .inl waiting
  offered _ waiting := .inl waiting
  others other different := by
    have distinct : other ≠ key := fun same =>
      different (by rw [SlotLabel.touches, pending, same]; rfl)
    simp [distinct]
  failed failing := by cases failing

/-- An operation that changes neither the queue nor the owner nor a key. -/
theorem Safe.admission (safe : run.Safe) (label : SlotLabel) (enabled : Bool)
    (barrier : ReconciliationBarrier) :
    Prepares run label { run.slots with grantsEnabled := enabled, reconciliation := barrier } :=
  safe.prepares (safe.fifo.of_sublist (List.Sublist.refl _) (.inr rfl) rfl rfl)
    (safe.handles.of_subset (fun _ waiting => waiting) rfl rfl rfl) rfl (.inl rfl)
    (fun _ waiting => .inl waiting) (fun _ waiting => .inl waiting) rfl rfl

/-- The request of a zone goes to the tail, after its ownership was given up, if it had it. -/
theorem Safe.push (safe : run.Safe) {label : SlotLabel} {zoneId : String} {owner : Option String}
    (queues : label.queues = some zoneId) (released : owner = run.slots.owner ∨
      owner = none ∧ run.slots.owner = label.releases)
    (unowned : owner ≠ some zoneId) (absent : ∀ queued ∈ run.slots.queue, queued.zoneId ≠ zoneId) :
    Prepares run label { run.slots with
      owner := owner
      queue := run.slots.queue ++ [⟨zoneId, run.slots.nextRequest⟩]
      nextRequest := run.slots.nextRequest + 1 } := by
  have kept : SlotManager.Fifo { run.slots with owner := owner } :=
    safe.fifo.of_sublist (List.Sublist.refl _) (released.symm.imp And.left id) rfl rfl
  have handles : SlotManager.Handles { run.slots with owner := owner } :=
    safe.handles.of_subset (fun _ waiting => waiting) rfl rfl rfl
  refine safe.prepares (kept.push unowned absent) (handles.push zoneId) rfl released
    (fun _ waiting => .inl (List.mem_append_left _ waiting)) (fun queued member => ?_) rfl rfl
  rcases List.mem_append.mp member with waiting | isLast
  · exact .inl waiting
  · obtain rfl := List.mem_singleton.mp isLast
    exact .inr ⟨queues, rfl⟩

theorem Safe.request (safe : run.Safe) (zoneId : String) :
    SlotStep run (.request zoneId) (run.slots.request zoneId).1 := by
  have fifo := safe.fifo.request zoneId
  unfold SlotManager.request at fifo ⊢
  split
  · rename_i owned
    rw [if_pos owned] at fifo
    -- The owner's new future is resolved without a grant.
    have prepares : Prepares run (.request zoneId) { run.slots with
        granted := run.slots.nextRequest :: run.slots.granted
        nextRequest := run.slots.nextRequest + 1 } := {
      safe.unchanged (.request zoneId) with
      fifo := fifo
      handles := safe.handles.resolveNext safe.fifo.numbered
      granted := .inr ⟨rfl, ⟨zoneId, rfl, owned, owned⟩, rfl⟩ }
    exact prepares.slotStep
  · rename_i owner
    split
    · exact (safe.unchanged _).slotStep
    · rename_i absent
      exact (safe.push rfl (.inl rfl) owner (by simpa using absent)).tryGrant

theorem Safe.cancelRequest (safe : run.Safe) (zoneId : String) :
    SlotStep run (.cancelRequest zoneId) (run.slots.cancelRequest zoneId) := by
  have fifo : (run.slots.cancelRequest zoneId).Fifo :=
    safe.fifo.of_sublist List.filter_sublist (.inr rfl) rfl rfl
  have shorter : ∀ queued ∈ (run.slots.cancelRequest zoneId).queue, queued ∈ run.slots.queue :=
    fun _ waiting => List.mem_of_mem_filter waiting
  refine (safe.prepares fifo (safe.handles.of_subset shorter rfl rfl rfl) rfl (.inl rfl)
    (fun queued waiting => ?_) (fun queued waiting => .inl (shorter queued waiting)) rfl rfl).slotStep
  by_cases withdrawn : queued.zoneId = zoneId
  · exact .inr (.inr (by rw [SlotLabel.withdraws, withdrawn]))
  · exact .inl (List.mem_filter.mpr ⟨waiting, by simpa using withdrawn⟩)

theorem Safe.release (safe : run.Safe) (zoneId : String) :
    SlotStep run (.release zoneId) (run.slots.release zoneId) := by
  unfold SlotManager.release
  split
  · rename_i owned
    have prepares : Prepares run (.release zoneId) { run.slots with owner := none } :=
      safe.prepares (safe.fifo.of_sublist (List.Sublist.refl _) (.inl rfl) rfl rfl)
        (safe.handles.of_subset (fun _ waiting => waiting) rfl rfl rfl) rfl
        (.inr ⟨rfl, owned⟩) (fun _ waiting => .inl waiting) (fun _ waiting => .inl waiting) rfl rfl
    exact prepares.tryGrant
  · exact (safe.unchanged _).slotStep

theorem Safe.requeueTail (safe : run.Safe) (zoneId : String) :
    SlotStep run (.requeueTail zoneId) (run.slots.requeueTail zoneId) := by
  unfold SlotManager.requeueTail
  split
  · rename_i owned
    have pushed : Prepares run (.requeueTail zoneId) { run.slots with
        owner := none
        queue := run.slots.queue ++ [⟨zoneId, run.slots.nextRequest⟩]
        nextRequest := run.slots.nextRequest + 1 } :=
      safe.push rfl (.inr ⟨rfl, owned⟩) (by simp) fun queued member same =>
        safe.fifo.unowned queued member (same ▸ owned)
    exact pushed.tryGrant
  · exact (safe.unchanged _).slotStep

theorem Safe.closeAdmission (safe : run.Safe) :
    SlotStep run .closeAdmissionNow run.slots.closeAdmission := by
  have fifo : run.slots.closeAdmission.Fifo :=
    safe.fifo.of_sublist (List.nil_sublist _) (.inr rfl) rfl rfl
  have handles : run.slots.closeAdmission.Handles :=
    safe.handles.of_subset (by simp [SlotManager.closeAdmission]) rfl rfl rfl
  refine (safe.prepares fifo handles rfl (.inl rfl) (fun queued waiting => .inr (.inl ?_))
    (by simp [SlotManager.closeAdmission]) rfl rfl).slotStep
  exact List.mem_append_left _ (List.mem_map_of_mem waiting)

theorem Safe.cancelFuture (safe : run.Safe) (request : Nat) :
    Prepares run (.cancelFuture request) (run.slots.cancelFuture request) := by
  unfold SlotManager.cancelFuture
  split
  · exact safe.unchanged _
  · exact safe.prepares (safe.fifo.of_sublist (List.Sublist.refl _) (.inr rfl) rfl rfl)
      (safe.handles.of_subset (fun _ waiting => waiting) rfl rfl rfl) rfl (.inl rfl)
      (fun _ waiting => .inl waiting) (fun _ waiting => .inl waiting) rfl rfl

/-- Every step respects the manager's rules. -/
theorem Safe.slotStep (safe : run.Safe) {label : SlotLabel} {next : SlotRun}
    (stepped : run.step label = some next) : SlotStep run label next.slots := by
  cases label with
  -- A new key waits for its write; a live one is only added again.
  | addBlocker key =>
    simp only [step] at stepped
    split at stepped
    · split at stepped
      · obtain rfl := Option.some.inj stepped
        exact (safe.unchanged _).slotStep
      · obtain rfl := Option.some.inj stepped
        exact (safe.addBlocker key).slotStep
    · cases stepped
  | removeBlocker key =>
    simp only [step] at stepped
    split at stepped
    · split at stepped <;> obtain rfl := Option.some.inj stepped <;>
        exact (safe.unchanged _).slotStep
    · cases stepped
  -- The write of the key returns, and a removed key may free the slot.
  | persisted saved =>
    simp only [step] at stepped
    cases pending : run.suspended with
    | none => simp [pending] at stepped
    | some write =>
      cases write with
      | adding key =>
        simp only [pending, Option.some.injEq] at stepped
        subst stepped
        exact (safe.added pending saved).slotStep
      | removing key =>
        simp only [pending, Option.some.injEq] at stepped
        subst stepped
        cases saved with
        | false => exact (safe.unchanged _).slotStep
        | true => exact (safe.removed pending).tryGrant
  | enableGrants =>
    obtain ⟨-, rfl⟩ := locked_eq_some stepped
    exact (safe.admission _ true run.slots.reconciliation).tryGrant
  | disableGrants =>
    obtain ⟨-, rfl⟩ := locked_eq_some stepped
    exact (safe.admission _ false run.slots.reconciliation).slotStep
  -- A clear barrier may grant.
  | setReconciliationBarrier barrier =>
    obtain ⟨-, rfl⟩ := locked_eq_some stepped
    exact (safe.admission _ run.slots.grantsEnabled barrier).tryGrant
  | setReconciliationStateNow barrier =>
    obtain rfl := Option.some.inj stepped
    exact (safe.admission _ run.slots.grantsEnabled barrier).tryGrant
  | closeAdmissionNow =>
    obtain rfl := Option.some.inj stepped
    exact safe.closeAdmission
  | request zoneId =>
    obtain ⟨-, rfl⟩ := locked_eq_some stepped
    exact safe.request zoneId
  | cancelRequest zoneId =>
    obtain ⟨-, rfl⟩ := locked_eq_some stepped
    exact safe.cancelRequest zoneId
  | release zoneId =>
    obtain ⟨-, rfl⟩ := locked_eq_some stepped
    exact safe.release zoneId
  | requeueTail zoneId =>
    obtain ⟨-, rfl⟩ := locked_eq_some stepped
    exact safe.requeueTail zoneId
  | cancelFuture request =>
    obtain rfl := Option.some.inj stepped
    exact (safe.cancelFuture request).slotStep

/-- A pending write is one that was pending before, or the one that the step begins. -/
theorem Safe.step (safe : run.Safe) {label : SlotLabel} {next : SlotRun}
    (stepped : run.step label = some next) : next.Safe := by
  have respects := safe.slotStep stepped
  refine ⟨respects.fifo, respects.handles, fun write pending => ?_⟩
  have same : next.suspended = run.suspended → label.touches run = none →
      write.key ∈ next.slots.blockers := by
    intro still untouched
    have live := safe.pending write (still ▸ pending)
    exact ((respects.others write.key (by simp [untouched])).1).mpr live
  cases label with
  | addBlocker key =>
    simp only [SlotRun.step] at stepped
    split at stepped
    · rename_i free
      split at stepped <;> obtain rfl := Option.some.inj stepped
      · simp [free] at pending
      · obtain rfl : .adding key = write := Option.some.inj pending
        simp [SlotManager.beginAdd, SlotManager.addLive, BlockerWrite.key]
    · cases stepped
  | removeBlocker key =>
    simp only [SlotRun.step] at stepped
    split at stepped
    · rename_i free
      split at stepped <;> obtain rfl := Option.some.inj stepped
      · rename_i live
        obtain rfl : .removing key = write := Option.some.inj pending
        exact live
      · simp [free] at pending
    · cases stepped
  | persisted saved =>
    simp only [SlotRun.step] at stepped
    split at stepped
    · cases stepped
    all_goals
      obtain rfl := Option.some.inj stepped
      cases pending
  | setReconciliationStateNow barrier =>
    obtain rfl := Option.some.inj stepped
    exact same rfl rfl
  | closeAdmissionNow =>
    obtain rfl := Option.some.inj stepped
    exact same rfl rfl
  | cancelFuture request =>
    obtain rfl := Option.some.inj stepped
    exact same rfl rfl
  | _ =>
    obtain ⟨free, rfl⟩ := locked_eq_some stepped
    simp [free] at pending

/-- A manager as it is constructed. -/
theorem safe_initial : SlotRun.Safe {} where
  fifo := by constructor <;> simp
  handles := by constructor <;> simp
  pending := by simp

/-- In every interleaving of the manager's operations the queue holds one request per zone,
none of the owner, and is served in order of arrival; and every further step resolves futures,
hands over and withdraws only as `SlotStep` says. -/
theorem respectsSlotRules_of_run {finish : SlotRun}
    (reached : system.Run (fun _ _ _ => True) {} finish) :
    finish.slots.Fifo ∧ finish.slots.Handles ∧
      ∀ label next, system.step finish label = some next → SlotStep finish label next.slots := by
  have safe : finish.Safe := reached.preserves safe_initial fun _ _ _ safe stepped _ =>
    safe.step stepped
  exact ⟨safe.fifo, safe.handles, fun label next stepped => safe.slotStep stepped⟩

/-- The write of an added key fails; the slot that is given up then waits for its removal, which
hands it to the next request. -/
theorem respectsSlotRules_of_run_failedAdd :
    ∃ finish, system.run {} [.enableGrants, .request "bed", .request "lawn",
        .addBlocker ("record-a", .externalFlow), .persisted false, .release "bed",
        .removeBlocker ("record-a", .externalFlow), .persisted true] = some finish ∧
      finish.slots.granted = [1, 0] ∧ finish.slots.owner = some "lawn" ∧
      finish.slots.Fifo ∧ finish.slots.Handles ∧
      ∀ label next, system.step finish label = some next → SlotStep finish label next.slots := by
  obtain ⟨finish, executed, granted⟩ := (Option.any_eq_true _ _).mp
    (show (system.run {} [.enableGrants, .request "bed", .request "lawn",
      .addBlocker ("record-a", .externalFlow), .persisted false, .release "bed",
      .removeBlocker ("record-a", .externalFlow), .persisted true]).any (fun finish =>
        decide (finish.slots.granted = [1, 0]) &&
          decide (finish.slots.owner = some "lawn")) = true by decide +kernel)
  simp only [Bool.and_eq_true, decide_eq_true_eq] at granted
  exact ⟨finish, executed, granted.1, granted.2, respectsSlotRules_of_run (.of_run executed)⟩

end SlotRun

end MoistureLoop
