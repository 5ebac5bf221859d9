import MoistureLoop.SlotRuns
import MoistureLoop.Controller.Apply

/-! # The slot request of a zone

A request for the slot lives in three places: the slot task of the controller, the future
that this task awaits, and the queue of the slot manager.  The steps are the `RequestSlot`
and `ReleaseSlot` actions in any order, the pieces of `_await_slot` between two awaits, the
end of a controller, and what the entry does to the manager.  Every zone has one
controller. -/

namespace MoistureLoop

/-- `_await_slot`, from its creation to its end. -/
inductive RequestTask where
  | starting
  | waiting (request : Nat)
  /-- The awaited future or the task itself was cancelled; the withdrawal comes next. -/
  | cancelled
  /-- Granted, but the runtime is no longer eligible; the release comes next. -/
  | ineligible
  | offering (pendingManual : Option Seconds)
  deriving DecidableEq, Repr

/-- The slot bookkeeping of one controller.  `withdrawing` says that a `ReleaseSlot` action
stands between its two operations. -/
structure ZoneSlot where
  runtimeEligible : Bool := true
  detaching : Bool := false
  pendingManual : Option Seconds := none
  slotTask : Option RequestTask := none
  withdrawing : Bool := false
  deriving DecidableEq, Repr

/-- The manager with the bookkeeping of every zone.  `closed` records that admission has
been closed for good. -/
structure SlotClaims where
  run : SlotRun := {}
  zones : String → ZoneSlot := fun _ => {}
  closed : Bool := false

inductive ClaimLabel where
  | requestSlot (zoneId : String) (manual : Option Seconds)
  | releaseSlot (zoneId : String)
  | withdrawSlot (zoneId : String)
  | startTask (zoneId : String)
  | resumeTask (zoneId : String)
  | releaseTask (zoneId : String)
  | finishTask (zoneId : String)
  | wakeCancelled (zoneId : String)
  | withdrawTask (zoneId : String)
  | detach (zoneId : String)
  | beginQuiescing (zoneId : String)
  | updateOwnership (zoneId : String) (active : Bool)
  /-- The entry withdraws the request of a zone that it reconfigures. -/
  | entryCancelRequest (zoneId : String)
  | addBlocker (key : BlockerKey)
  | removeBlocker (key : BlockerKey)
  | persisted (saved : Bool)
  | enableGrants
  | disableGrants
  | setReconciliation (barrier : ReconciliationBarrier)
  | closeAdmissionNow
  deriving DecidableEq, Repr

namespace ZoneSlot

/-- The `RequestSlot` action: `_ensure_slot_request`, after the waiting manual request has
been recorded. -/
def ensureSlotRequest (zone : ZoneSlot) (manual : Option Seconds) : ZoneSlot :=
  let recorded := { zone with pendingManual := manual.or zone.pendingManual }
  if zone.runtimeEligible then
    { recorded with slotTask := zone.slotTask.or (some .starting) }
  else recorded

/-- `_await_slot` after its future was granted. -/
def resume (zone : ZoneSlot) : ZoneSlot :=
  if zone.runtimeEligible then
    { zone with slotTask := some (.offering zone.pendingManual), pendingManual := none }
  else { zone with slotTask := some .ineligible }

/-- `async_detach` cancels the slot task; only a task that awaits its future has something
to withdraw. -/
def detach (zone : ZoneSlot) : ZoneSlot :=
  { zone with
    detaching := true
    runtimeEligible := false
    slotTask := match zone.slotTask with
      | some (.waiting _) | some .cancelled => some .cancelled
      | _ => none }

end ZoneSlot

namespace SlotClaims

/-- The zone changes its bookkeeping and nothing else happens. -/
def setZone (state : SlotClaims) (zoneId : String) (zone : ZoneSlot) : SlotClaims :=
  { state with zones := Function.update state.zones zoneId zone }

def operate (state : SlotClaims) (label : SlotLabel) (zoneId : String) (zone : ZoneSlot) :
    Option SlotClaims :=
  (state.run.step label).map fun run => { state.setZone zoneId zone with run := run }

/-- An operation of the manager on behalf of the entry. -/
def manage (state : SlotClaims) (label : SlotLabel) : Option SlotClaims :=
  (state.run.step label).map fun run => { state with run := run }

def step (state : SlotClaims) : ClaimLabel → Option SlotClaims
  | .requestSlot zoneId manual =>
    some (state.setZone zoneId ((state.zones zoneId).ensureSlotRequest manual))
  | .releaseSlot zoneId =>
    state.operate (.release zoneId) zoneId { state.zones zoneId with withdrawing := true }
  | .withdrawSlot zoneId =>
    if (state.zones zoneId).withdrawing then
      state.operate (.cancelRequest zoneId) zoneId { state.zones zoneId with withdrawing := false }
    else none
  | .startTask zoneId =>
    if (state.zones zoneId).slotTask = some .starting then
      state.operate (.request zoneId) zoneId
        { state.zones zoneId with
          slotTask := some (.waiting (state.run.slots.request zoneId).2) }
    else none
  | .resumeTask zoneId =>
    match (state.zones zoneId).slotTask with
    | some (.waiting request) =>
      if request ∈ state.run.slots.granted then
        some (state.setZone zoneId (state.zones zoneId).resume)
      else none
    | _ => none
  | .releaseTask zoneId =>
    if (state.zones zoneId).slotTask = some .ineligible then
      state.operate (.release zoneId) zoneId { state.zones zoneId with slotTask := none }
    else none
  | .finishTask zoneId =>
    match (state.zones zoneId).slotTask with
    | some (.offering _) => some (state.setZone zoneId { state.zones zoneId with slotTask := none })
    | _ => none
  | .wakeCancelled zoneId =>
    match (state.zones zoneId).slotTask with
    | some (.waiting request) =>
      if request ∈ state.run.slots.cancelled then
        some (state.setZone zoneId { state.zones zoneId with slotTask := some .cancelled })
      else none
    | _ => none
  | .withdrawTask zoneId =>
    if (state.zones zoneId).slotTask = some .cancelled then
      state.operate (.cancelRequest zoneId) zoneId { state.zones zoneId with slotTask := none }
    else none
  | .detach zoneId =>
    match (state.zones zoneId).slotTask with
    | some (.waiting request) =>
      state.operate (.cancelFuture request) zoneId (state.zones zoneId).detach
    | _ => some (state.setZone zoneId (state.zones zoneId).detach)
  | .beginQuiescing zoneId =>
    some (state.setZone zoneId
      { state.zones zoneId with runtimeEligible := false, pendingManual := none })
  | .updateOwnership zoneId active =>
    some (state.setZone zoneId
      { state.zones zoneId with runtimeEligible := active && !(state.zones zoneId).detaching })
  | .entryCancelRequest zoneId => state.manage (.cancelRequest zoneId)
  | .addBlocker key => state.manage (.addBlocker key)
  | .removeBlocker key => state.manage (.removeBlocker key)
  | .persisted saved => state.manage (.persisted saved)
  | .enableGrants => state.manage .enableGrants
  | .disableGrants => state.manage .disableGrants
  | .setReconciliation barrier => state.manage (.setReconciliationStateNow barrier)
  | .closeAdmissionNow =>
    (state.manage .closeAdmissionNow).map fun closed => { closed with closed := true }

def system : LabelledSystem SlotClaims ClaimLabel := ⟨step⟩

end SlotClaims

namespace SlotManager

variable {slots : SlotManager}

/-- `SlotRequest.pending`: nobody has resolved the future. -/
def Pending (slots : SlotManager) (request : Nat) : Prop :=
  request ∉ slots.granted ∧ request ∉ slots.cancelled

/-! ## Futures and the queue -/

/-- The futures of the queue with those that were cancelled. -/
structure Futures (slots : SlotManager) : Prop extends slots.Handles where
  cancelled : ∀ request ∈ slots.cancelled, request < slots.nextRequest

/-- An operation that queues and cancels nothing, and only withdraws a request of `zoneId`. -/
structure Narrows (before : SlotManager) (zoneId : Option String) (after : SlotManager) :
    Prop where
  queue : ∀ queued ∈ after.queue, queued ∈ before.queue
  cancelled : after.cancelled = before.cancelled
  granted : ∀ request ∈ before.granted, request ∈ after.granted
  numbers : after.nextRequest = before.nextRequest
  leaves : ∀ queued ∈ before.queue, queued ∈ after.queue ∨ queued.id ∈ after.granted ∨
    queued.id ∈ after.cancelled ∨ zoneId = some queued.zoneId

theorem Narrows.refl (slots : SlotManager) (zoneId : Option String) :
    slots.Narrows zoneId slots :=
  ⟨fun _ member => member, rfl, fun _ done => done, rfl, fun _ member => .inl member⟩

/-- The grant decision narrows the queue: what leaves it is served or cancelled. -/
theorem Narrows.tryGrant {prepared : SlotManager} {zoneId : Option String}
    (narrows : slots.Narrows zoneId prepared) : slots.Narrows zoneId prepared.tryGrant := by
  rcases prepared.tryGrant_cases with same | ⟨-, cancelled, dropped⟩ |
    ⟨-, skipped, request, rest, queue, passed, -, granted⟩
  · rwa [same]
  · rw [dropped]
    refine { narrows with queue := by simp, leaves := fun queued waiting => ?_ }
    rcases narrows.leaves queued waiting with waits | gone
    · exact .inr (.inr (.inl (cancelled queued waits)))
    · exact .inr gone
  · rw [granted]
    refine { narrows with
      queue := fun queued member => narrows.queue queued (by simp [queue, member])
      granted := fun other done => List.mem_cons_of_mem _ (narrows.granted other done)
      leaves := fun queued waiting => ?_ }
    rcases narrows.leaves queued waiting with waits | done | gone
    · rw [queue, List.mem_append, List.mem_cons] at waits
      rcases waits with before | rfl | behind
      · exact .inr (.inr (.inl (passed queued before)))
      · exact .inr (.inl List.mem_cons_self)
      · exact .inl behind
    · exact .inr (.inl (List.mem_cons_of_mem _ done))
    · exact .inr (.inr gone)

theorem Futures.tryGrant (futures : slots.Futures)
    (ordered : slots.queue.Pairwise fun first second => first.id < second.id)
    (numbered : ∀ queued ∈ slots.queue, queued.id < slots.nextRequest) :
    slots.tryGrant.Futures where
  toHandles := futures.toHandles.tryGrant ordered numbered
  cancelled request member := by
    have same : slots.tryGrant.cancelled = slots.cancelled ∧
        slots.tryGrant.nextRequest = slots.nextRequest := by
      rcases slots.tryGrant_cases with same | ⟨-, -, dropped⟩ | ⟨-, _, _, _, -, -, -, granted⟩
      · rw [same]
        exact ⟨rfl, rfl⟩
      · rw [dropped]
        exact ⟨rfl, rfl⟩
      · rw [granted]
        exact ⟨rfl, rfl⟩
    exact same.2 ▸ futures.cancelled request (same.1 ▸ member)

/-- Only the queue got shorter. -/
theorem Futures.of_subset {next : SlotManager} (futures : slots.Futures)
    (queue : ∀ queued ∈ next.queue, queued ∈ slots.queue) (served : next.served = slots.served)
    (granted : next.granted = slots.granted) (cancelled : next.cancelled = slots.cancelled)
    (numbers : next.nextRequest = slots.nextRequest) : next.Futures where
  toHandles := futures.toHandles.of_subset queue served granted numbers
  cancelled request member := numbers ▸ futures.cancelled request (cancelled ▸ member)

/-- A fresh request is numbered and nobody has resolved it. -/
theorem Futures.push (futures : slots.Futures) (zoneId : String) :
    Futures { slots with
      queue := slots.queue ++ [⟨zoneId, slots.nextRequest⟩]
      nextRequest := slots.nextRequest + 1 } where
  toHandles := futures.toHandles.push zoneId
  cancelled request member := Nat.lt_succ_of_lt (futures.cancelled request member)

end SlotManager

/-- The operations that neither queue nor cancel. -/
def SlotLabel.isPlain : SlotLabel → Bool
  | .request _ | .requeueTail _ | .cancelFuture _ | .closeAdmissionNow => false
  | _ => true

namespace SlotRun

variable {run next : SlotRun}

/-- A plain operation withdraws the requests it names, then changes ownership, admission or
keys, and may end with the grant decision. -/
theorem step_plain {label : SlotLabel} (plain : label.isPlain = true)
    (stepped : run.step label = some next) :
    ∃ prepared : SlotManager, (next.slots = prepared ∨ next.slots = prepared.tryGrant) ∧
      prepared.queue = run.slots.queue.filter (fun queued =>
        label.withdraws ≠ some queued.zoneId) ∧
      prepared.served = run.slots.served ∧ prepared.granted = run.slots.granted ∧
      prepared.cancelled = run.slots.cancelled ∧
      prepared.nextRequest = run.slots.nextRequest := by
  cases label with
  | request | requeueTail | cancelFuture | closeAdmissionNow => cases plain
  | addBlocker key =>
    simp only [step] at stepped
    split at stepped
    · split at stepped <;> obtain rfl := Option.some.inj stepped <;>
        exact ⟨_, .inl rfl, by simp [SlotLabel.withdraws, SlotManager.beginAdd,
          SlotManager.addLive], rfl, rfl, rfl, rfl⟩
    · cases stepped
  | removeBlocker key =>
    simp only [step] at stepped
    split at stepped
    · split at stepped <;> obtain rfl := Option.some.inj stepped <;>
        exact ⟨_, .inl rfl, by simp [SlotLabel.withdraws], rfl, rfl, rfl, rfl⟩
    · cases stepped
  | persisted saved =>
    simp only [step] at stepped
    split at stepped
    · cases stepped
    · obtain rfl := Option.some.inj stepped
      cases saved <;> exact ⟨_, .inl rfl, by simp [SlotLabel.withdraws, SlotManager.finishAdd],
        rfl, rfl, rfl, rfl⟩
    · obtain rfl := Option.some.inj stepped
      cases saved with
      | false => exact ⟨_, .inl rfl, by simp [SlotLabel.withdraws], rfl, rfl, rfl, rfl⟩
      | true => exact ⟨_, .inr rfl, by simp [SlotLabel.withdraws], rfl, rfl, rfl, rfl⟩
  | disableGrants =>
    obtain ⟨-, rfl⟩ := locked_eq_some stepped
    exact ⟨_, .inl rfl, by simp [SlotLabel.withdraws, SlotManager.disableGrants], rfl, rfl, rfl,
      rfl⟩
  | enableGrants | setReconciliationBarrier =>
    obtain ⟨-, rfl⟩ := locked_eq_some stepped
    exact ⟨_, .inr rfl, by simp [SlotLabel.withdraws], rfl, rfl, rfl, rfl⟩
  | setReconciliationStateNow =>
    obtain rfl := Option.some.inj stepped
    exact ⟨_, .inr rfl, by simp [SlotLabel.withdraws], rfl, rfl, rfl, rfl⟩
  | cancelRequest zoneId =>
    obtain ⟨-, rfl⟩ := locked_eq_some stepped
    exact ⟨_, .inl rfl, by simp [SlotLabel.withdraws, SlotManager.cancelRequest, eq_comm],
      rfl, rfl, rfl, rfl⟩
  | release zoneId =>
    obtain ⟨-, rfl⟩ := locked_eq_some stepped
    by_cases owned : run.slots.owner = some zoneId
    · refine ⟨{ run.slots with owner := none }, .inr ?_, by simp [SlotLabel.withdraws], rfl, rfl,
        rfl, rfl⟩
      simp [SlotManager.release, owned]
    · refine ⟨run.slots, .inl ?_, by simp [SlotLabel.withdraws], rfl, rfl, rfl, rfl⟩
      simp [SlotManager.release, owned]

/-- A plain operation narrows the queue. -/
theorem narrows_of_isPlain (fifo : run.slots.Fifo) (futures : run.slots.Futures)
    {label : SlotLabel} (plain : label.isPlain = true) (stepped : run.step label = some next) :
    run.slots.Narrows label.withdraws next.slots ∧ next.slots.Futures := by
  obtain ⟨prepared, after, queue, served, granted, cancelled, numbers⟩ :=
    step_plain plain stepped
  have shorter : ∀ queued ∈ prepared.queue, queued ∈ run.slots.queue := fun queued member =>
    List.mem_of_mem_filter (queue ▸ member)
  have narrows : run.slots.Narrows label.withdraws prepared := by
    refine ⟨shorter, cancelled, fun _ done => granted.symm ▸ done, numbers,
      fun queued waiting => ?_⟩
    by_cases withdrawn : label.withdraws = some queued.zoneId
    · exact .inr (.inr (.inr withdrawn))
    · rw [queue]
      exact .inl (List.mem_filter.mpr ⟨waiting, by simpa using withdrawn⟩)
  have unresolved := futures.of_subset shorter served granted cancelled numbers
  rcases after with same | granting
  · exact same ▸ ⟨narrows, unresolved⟩
  · refine granting ▸ ⟨narrows.tryGrant, unresolved.tryGrant ?_ fun queued member => ?_⟩
    · exact queue ▸ fifo.ordered.sublist List.filter_sublist
    · exact numbers ▸ fifo.numbered queued (shorter queued member)

end SlotRun

/-! ## The invariant -/

/-- What the future of a zone's slot task is, while it awaits one. -/
structure ZoneSlot.Tidy (slots : SlotManager) (closed : Bool) (zoneId : String)
    (zone : ZoneSlot) : Prop where
  known : ∀ request, zone.slotTask = some (.waiting request) → request < slots.nextRequest
  queued : ∀ request, zone.slotTask = some (.waiting request) → slots.Pending request →
    ⟨zoneId, request⟩ ∈ slots.queue
  dropped : ∀ request, zone.slotTask = some (.waiting request) → request ∈ slots.cancelled →
    closed = true
  cancelled : zone.slotTask = some .cancelled → zone.detaching = true ∨ closed = true
  ineligible : zone.detaching = true → zone.runtimeEligible = false

namespace SlotClaims

variable {state next : SlotClaims}

/-- Every zone is tidy, and only a task that is being cancelled leaves a cancelled request
in the queue. -/
structure Tidy (state : SlotClaims) : Prop where
  safe : state.run.Safe
  futures : state.run.slots.Futures
  cancelling : ∀ queued ∈ state.run.slots.queue, queued.id ∈ state.run.slots.cancelled →
    (state.zones queued.zoneId).slotTask = some .cancelled
  zones : ∀ zoneId, (state.zones zoneId).Tidy state.run.slots state.closed zoneId

/-- The zone's slot task awaits a future that nobody has resolved. -/
def Awaits (state : SlotClaims) (zoneId : String) : Prop :=
  ∃ request, (state.zones zoneId).slotTask = some (.waiting request) ∧
    state.run.slots.Pending request

/-- The zone's slot task has been granted the slot and is not done with the grant. -/
def Consumes (state : SlotClaims) (zoneId : String) : Prop :=
  match (state.zones zoneId).slotTask with
  | some (.waiting request) => request ∈ state.run.slots.granted
  | some .ineligible | some (.offering _) => True
  | _ => False

/-- The zone owns the slot, has a live queued request, or is about to queue one. -/
def HasClaim (state : SlotClaims) (zoneId : String) : Prop :=
  state.run.slots.owner = some zoneId ∨
    (∃ queued ∈ state.run.slots.queue, queued.zoneId = zoneId ∧
      queued.id ∉ state.run.slots.cancelled) ∨
    (state.zones zoneId).slotTask = some .starting

/-- No request is withdrawn under a task that still awaits it, and no request is asked for
while the task is busy with a grant whose slot the zone has given up. -/
def KeepsRequests (state : SlotClaims) : ClaimLabel → Prop
  | .withdrawSlot zoneId | .entryCancelRequest zoneId => ¬ state.Awaits zoneId
  | .requestSlot zoneId _ => state.Consumes zoneId → state.run.slots.owner = some zoneId
  | _ => True

/-! ## One zone or the manager at a time -/

/-- A zone's bookkeeping moves while the manager rests. -/
theorem Tidy.setZone (tidy : state.Tidy) {zoneId : String} {zone : ZoneSlot}
    (zoneTidy : zone.Tidy state.run.slots state.closed zoneId)
    (cancelling : (state.zones zoneId).slotTask = some .cancelled →
      zone.slotTask = some .cancelled ∨
        ∀ queued ∈ state.run.slots.queue, queued.zoneId ≠ zoneId) :
    (state.setZone zoneId zone).Tidy where
  safe := tidy.safe
  futures := tidy.futures
  cancelling queued waiting gone := by
    have before := tidy.cancelling queued waiting gone
    by_cases same : queued.zoneId = zoneId
    · subst same
      rcases cancelling before with still | absent
      · simpa [SlotClaims.setZone] using still
      · exact absurd rfl (absent queued waiting)
    · simpa [SlotClaims.setZone, same] using before
  zones other := by
    by_cases same : other = zoneId
    · subst same
      simpa [SlotClaims.setZone] using zoneTidy
    · simpa [SlotClaims.setZone, same] using tidy.zones other

/-- The manager narrows its queue while the zones rest. -/
theorem Tidy.narrow (tidy : state.Tidy) {label : SlotLabel} {run : SlotRun}
    (plain : label.isPlain = true)
    (kept : ∀ zoneId, label.withdraws = some zoneId → ¬ state.Awaits zoneId)
    (stepped : state.run.step label = some run) : Tidy { state with run := run } := by
  obtain ⟨narrows, futures⟩ := SlotRun.narrows_of_isPlain tidy.safe.fifo tidy.futures plain stepped
  refine ⟨tidy.safe.step stepped, futures, fun queued waiting gone => ?_, fun zoneId => ?_⟩
  · exact tidy.cancelling queued (narrows.queue queued waiting) (narrows.cancelled ▸ gone)
  · have zone := tidy.zones zoneId
    refine { zone with
      known := fun request waits => narrows.numbers ▸ zone.known request waits
      queued := fun request waits pending => ?_
      dropped := fun request waits gone => zone.dropped request waits (narrows.cancelled ▸ gone) }
    have before : state.run.slots.Pending request :=
      ⟨fun done => pending.1 (narrows.granted request done), narrows.cancelled ▸ pending.2⟩
    rcases narrows.leaves _ (zone.queued request waits before) with still | done | gone | withdrawn
    · exact still
    · exact absurd done pending.1
    · exact absurd gone pending.2
    · exact absurd ⟨request, waits, before⟩ (kept zoneId withdrawn)

/-- Closing admission cancels what waits. -/
theorem Tidy.close (tidy : state.Tidy) {run : SlotRun}
    (stepped : state.run.step .closeAdmissionNow = some run) :
    Tidy { state with run := run, closed := true } := by
  have safe := tidy.safe.step stepped
  obtain rfl := Option.some.inj stepped
  have emptied : ∀ queued ∈ state.run.slots.closeAdmission.queue, False := by
    simp [SlotManager.closeAdmission]
  refine ⟨safe, { tidy.futures with
      waiting := fun queued waiting => (emptied queued waiting).elim
      cancelled := fun request gone => ?_ },
    fun queued waiting => (emptied queued waiting).elim, fun zoneId => ?_⟩
  · rcases List.mem_append.mp gone with closing | before
    · obtain ⟨queued, waiting, rfl⟩ := List.mem_map.mp closing
      exact tidy.safe.fifo.numbered queued waiting
    · exact tidy.futures.cancelled request before
  · have zone := tidy.zones zoneId
    refine ⟨zone.known, fun request waits pending => ?_, fun _ _ _ => rfl, fun _ => .inr rfl,
      zone.ineligible⟩
    have before : state.run.slots.Pending request :=
      ⟨pending.1, fun gone => pending.2 (List.mem_append_right _ gone)⟩
    refine absurd (List.mem_append_left _ ?_) pending.2
    exact List.mem_map_of_mem (zone.queued request waits before)

/-- A queued request is found by its number. -/
theorem Tidy.queued_unique (tidy : state.Tidy) {first second : SlotRequest}
    (waits : first ∈ state.run.slots.queue) (waits' : second ∈ state.run.slots.queue)
    (same : first.id = second.id) : first = second := by
  have distinct : (state.run.slots.queue.map SlotRequest.id).Nodup :=
    List.pairwise_map.mpr (tidy.safe.fifo.ordered.imp Nat.ne_of_lt)
  exact List.inj_on_of_nodup_map distinct waits waits' same

theorem Tidy.cancelFuture (tidy : state.Tidy) {zoneId : String} {request : Nat} {run : SlotRun}
    (cancelled : (state.zones zoneId).slotTask = some .cancelled)
    (known : request < state.run.slots.nextRequest)
    (queued : state.run.slots.Pending request → ⟨zoneId, request⟩ ∈ state.run.slots.queue)
    (dropped : request ∈ state.run.slots.cancelled → ∀ other,
      (state.zones other).slotTask = some (.waiting request) → state.closed = true)
    (stepped : state.run.step (.cancelFuture request) = some run) :
    Tidy { state with run := run } := by
  have safe := tidy.safe.step stepped
  obtain rfl := Option.some.inj stepped
  unfold SlotManager.cancelFuture at safe ⊢
  by_cases done : request ∈ state.run.slots.granted
  · rwa [if_pos done] at safe ⊢
  · rw [if_neg done] at safe ⊢
    have waits : request ∉ state.run.slots.cancelled →
        ⟨zoneId, request⟩ ∈ state.run.slots.queue := fun fresh => queued ⟨done, fresh⟩
    refine ⟨safe, { tidy.futures with cancelled := fun other gone => ?_ },
      fun other waiting gone => ?_, fun other => ?_⟩
    · rcases List.mem_cons.mp gone with rfl | before
      · exact known
      · exact tidy.futures.cancelled other before
    · by_cases before : other.id ∈ state.run.slots.cancelled
      · exact tidy.cancelling other waiting before
      · obtain same : other.id = request := by simpa [before] using gone
        have unique := tidy.queued_unique waiting (waits (same ▸ before)) same
        simpa [unique] using cancelled
    · have zone := tidy.zones other
      refine { zone with
        queued := fun waited task pending => zone.queued waited task
          ⟨pending.1, fun gone => pending.2 (List.mem_cons_of_mem _ gone)⟩
        dropped := fun waited task gone => ?_ }
      by_cases before : waited ∈ state.run.slots.cancelled
      · exact zone.dropped waited task before
      · obtain rfl : waited = request := by simpa [before] using gone
        have unique := tidy.queued_unique (zone.queued waited task ⟨done, before⟩) (waits before) rfl
        obtain rfl : other = zoneId := congrArg SlotRequest.zoneId unique
        cases cancelled.symm.trans task

end SlotClaims

namespace SlotManager

variable {slots : SlotManager}

/-- The handle that `async_request` returns: a granted future, or one that waits in the
queue; nothing else is cancelled, and what leaves the queue is served or cancelled. -/
structure Handle (slots : SlotManager) (zoneId : String) (after : SlotManager) (request : Nat) :
    Prop where
  futures : after.Futures
  known : request < after.nextRequest
  live : request ∉ after.cancelled
  reached : request ∈ after.granted ∨ ⟨zoneId, request⟩ ∈ after.queue
  cancelled : after.cancelled = slots.cancelled
  numbers : slots.nextRequest ≤ after.nextRequest
  granted : ∀ other ∈ slots.granted, other ∈ after.granted
  queue : ∀ queued ∈ after.queue, queued ∈ slots.queue ∨ queued.id = slots.nextRequest
  leaves : ∀ queued ∈ slots.queue, queued ∈ after.queue ∨ queued.id ∈ after.granted ∨
    queued.id ∈ after.cancelled

/-- The owner's new handle is granted at once. -/
theorem Handle.owned (fifo : slots.Fifo) (futures : slots.Futures) (zoneId : String) :
    slots.Handle zoneId { slots with
      granted := slots.nextRequest :: slots.granted
      nextRequest := slots.nextRequest + 1 } slots.nextRequest where
  futures :=
    ⟨futures.toHandles.resolveNext fifo.numbered,
      fun other gone => Nat.lt_succ_of_lt (futures.cancelled other gone)⟩
  known := Nat.lt_succ_self _
  live gone := lt_irrefl _ (futures.cancelled _ gone)
  reached := .inl List.mem_cons_self
  cancelled := rfl
  numbers := Nat.le_succ _
  granted _ done := List.mem_cons_of_mem _ done
  queue _ member := .inl member
  leaves _ member := .inl member

/-- A new request is queued, or served on the spot. -/
theorem Handle.pushed (fifo : slots.Fifo) (futures : slots.Futures) {zoneId : String}
    (owner : slots.owner ≠ some zoneId)
    (absent : ∀ queued ∈ slots.queue, queued.zoneId ≠ zoneId) :
    slots.Handle zoneId (SlotManager.tryGrant { slots with
      queue := slots.queue ++ [⟨zoneId, slots.nextRequest⟩]
      nextRequest := slots.nextRequest + 1 }) slots.nextRequest := by
  have ordered := fifo.push owner absent
  have narrows := (Narrows.refl { slots with
    queue := slots.queue ++ [⟨zoneId, slots.nextRequest⟩]
    nextRequest := slots.nextRequest + 1 } none).tryGrant
  have live : slots.nextRequest ∉ slots.cancelled := fun gone =>
    lt_irrefl _ (futures.cancelled _ gone)
  have leaves : ∀ queued ∈ slots.queue ++ [⟨zoneId, slots.nextRequest⟩], _ := fun queued waiting =>
    narrows.leaves queued waiting
  exact {
    futures := (futures.push zoneId).tryGrant ordered.ordered ordered.numbered
    known := narrows.numbers ▸ Nat.lt_succ_self _
    live := by
      rw [narrows.cancelled]
      exact live
    reached := by
      rcases leaves ⟨zoneId, slots.nextRequest⟩ (by simp) with waits | done | gone | withdrawn
      · exact .inr waits
      · exact .inl done
      · exact absurd (narrows.cancelled ▸ gone) live
      · cases withdrawn
    cancelled := narrows.cancelled
    numbers := narrows.numbers ▸ Nat.le_succ _
    granted := narrows.granted
    queue := by
      intro queued member
      rcases List.mem_append.mp (narrows.queue queued member) with before | isLast
      · exact .inl before
      · exact .inr (by rw [List.mem_singleton.mp isLast])
    leaves := by
      intro queued waiting
      rcases leaves queued (List.mem_append_left _ waiting) with waits | done | gone | withdrawn
      · exact .inl waits
      · exact .inr (.inl done)
      · exact .inr (.inr gone)
      · cases withdrawn }

/-- Unless a cancelled request of the zone is queued, `async_request` returns a live handle. -/
theorem request_handle (fifo : slots.Fifo) (futures : slots.Futures) {zoneId : String}
    (live : ∀ queued ∈ slots.queue, queued.zoneId = zoneId → queued.id ∉ slots.cancelled) :
    slots.Handle zoneId (slots.request zoneId).1 (slots.request zoneId).2 := by
  unfold SlotManager.request
  split
  · exact .owned fifo futures zoneId
  · rename_i owner
    split
    · rename_i queued found
      have waiting := List.mem_of_find?_eq_some found
      have zone : queued.zoneId = zoneId := by simpa using List.find?_some found
      exact ⟨futures, fifo.numbered queued waiting, live queued waiting zone, .inr (zone ▸ waiting),
        rfl, le_rfl, fun _ done => done, fun _ member => .inl member, fun _ member => .inl member⟩
    · rename_i absent
      exact .pushed fifo futures owner (by simpa using absent)

end SlotManager

namespace SlotClaims

variable {state next : SlotClaims}

theorem Tidy.request (tidy : state.Tidy) {zoneId : String} {run : SlotRun}
    (starting : (state.zones zoneId).slotTask = some .starting)
    (stepped : state.run.step (.request zoneId) = some run) :
    Tidy { state with run := run } ∧ state.run.slots.Handle zoneId run.slots
      (state.run.slots.request zoneId).2 := by
  have safe := tidy.safe.step stepped
  obtain ⟨-, rfl⟩ := SlotRun.locked_eq_some stepped
  have handle := SlotManager.request_handle tidy.safe.fifo tidy.futures
    (fun queued waiting (same : queued.zoneId = zoneId) gone => by
      have cancelled := tidy.cancelling queued waiting gone
      rw [same, starting] at cancelled
      cases cancelled)
  refine ⟨⟨safe, handle.futures, fun queued waiting gone => ?_, fun other => ?_⟩, handle⟩
  · have before : queued.id ∈ state.run.slots.cancelled := handle.cancelled ▸ gone
    rcases handle.queue queued waiting with waited | fresh
    · exact tidy.cancelling queued waited before
    · exact absurd (tidy.futures.cancelled _ before) (by simp [fresh])
  · have zone := tidy.zones other
    refine { zone with
      known := fun waited task => (zone.known waited task).trans_le handle.numbers
      queued := fun waited task pending => ?_
      dropped := fun waited task gone => zone.dropped waited task (handle.cancelled ▸ gone) }
    have before : state.run.slots.Pending waited :=
      ⟨fun done => pending.1 (handle.granted waited done), handle.cancelled ▸ pending.2⟩
    rcases handle.leaves _ (zone.queued waited task before) with still | done | gone
    · exact still
    · exact absurd done pending.1
    · exact absurd gone pending.2

theorem manage_eq_some {label : SlotLabel} (stepped : state.manage label = some next) :
    ∃ run, state.run.step label = some run ∧ next = { state with run := run } := by
  obtain ⟨run, operated, rfl⟩ := Option.map_eq_some_iff.mp stepped
  exact ⟨run, operated, rfl⟩

theorem operate_eq_some {label : SlotLabel} {zoneId : String} {zone : ZoneSlot}
    (stepped : state.operate label zoneId zone = some next) :
    ∃ run, state.run.step label = some run ∧
      next = SlotClaims.setZone { state with run := run } zoneId zone := by
  obtain ⟨run, operated, rfl⟩ := Option.map_eq_some_iff.mp stepped
  exact ⟨run, operated, rfl⟩

/-- A zone whose task awaits nothing and is not being cancelled is tidy. -/
theorem tidy_of_idle {slots : SlotManager} {closed : Bool} {zoneId : String}
    {zone : ZoneSlot} (idle : ∀ request, zone.slotTask ≠ some (.waiting request))
    (live : zone.slotTask ≠ some .cancelled)
    (ineligible : zone.detaching = true → zone.runtimeEligible = false) :
    zone.Tidy slots closed zoneId :=
  ⟨fun request waits => absurd waits (idle request), fun request waits => absurd waits (idle request),
    fun request waits => absurd waits (idle request), fun gone => absurd gone live, ineligible⟩

theorem sameTask_tidy {slots : SlotManager} {closed : Bool} {zoneId : String}
    {zone after : ZoneSlot} (tidy : zone.Tidy slots closed zoneId)
    (task : after.slotTask = zone.slotTask) (detaching : after.detaching = zone.detaching)
    (ineligible : after.detaching = true → after.runtimeEligible = false) :
    after.Tidy slots closed zoneId where
  known request waits := tidy.known request (task ▸ waits)
  queued request waits := tidy.queued request (task ▸ waits)
  dropped request waits := tidy.dropped request (task ▸ waits)
  cancelled gone := detaching ▸ tidy.cancelled (task ▸ gone)
  ineligible := ineligible

/-- A zone operates the manager without queueing, then its bookkeeping moves. -/
theorem Tidy.operate (tidy : state.Tidy) {label : SlotLabel} {zoneId : String} {zone : ZoneSlot}
    (stepped : state.operate label zoneId zone = some next) (plain : label.isPlain = true)
    (kept : ∀ other, label.withdraws = some other → ¬ state.Awaits other)
    (zoneTidy : ∀ slots, (state.zones zoneId).Tidy slots state.closed zoneId →
      zone.Tidy slots state.closed zoneId)
    (cancelling : (state.zones zoneId).slotTask = some .cancelled →
      zone.slotTask = some .cancelled ∨ label = .cancelRequest zoneId) : next.Tidy := by
  obtain ⟨run, operated, rfl⟩ := operate_eq_some stepped
  have narrowed := tidy.narrow plain kept operated
  refine narrowed.setZone (zoneTidy run.slots (narrowed.zones zoneId)) fun before => ?_
  rcases cancelling before with still | withdrawn
  · exact .inl still
  · subst withdrawn
    obtain ⟨-, rfl⟩ := SlotRun.locked_eq_some operated
    refine .inr fun queued waiting => ?_
    simpa using (List.mem_filter.mp waiting).2

/-- The entry operates the manager without queueing. -/
theorem Tidy.manage (tidy : state.Tidy) {label : SlotLabel}
    (stepped : state.manage label = some next) (plain : label.isPlain = true)
    (kept : ∀ zoneId, label.withdraws = some zoneId → ¬ state.Awaits zoneId) : next.Tidy := by
  obtain ⟨run, operated, rfl⟩ := manage_eq_some stepped
  exact tidy.narrow plain kept operated

/-- Detaching cancels the future that the slot task awaits. -/
theorem Tidy.detach (tidy : state.Tidy) {zoneId : String}
    (stepped : state.step (.detach zoneId) = some next) : next.Tidy := by
  have zone := tidy.zones zoneId
  have detached : ∀ {slots : SlotManager} {closed : Bool},
      (state.zones zoneId).detach.Tidy slots closed zoneId := by
    refine ⟨?_, ?_, ?_, fun _ => .inl rfl, fun _ => rfl⟩ <;>
    · intro request waits
      simp only [ZoneSlot.detach] at waits
      split at waits <;> cases waits
  have stays : (state.zones zoneId).slotTask = some .cancelled →
      (state.zones zoneId).detach.slotTask = some .cancelled := by
    intro cancelled
    simp [ZoneSlot.detach, cancelled]
  have moved := tidy.setZone detached fun cancelled => .inl (stays cancelled)
  simp only [SlotClaims.step] at stepped
  split at stepped
  · rename_i request waits
    obtain ⟨run, operated, rfl⟩ := operate_eq_some stepped
    refine moved.cancelFuture ?_ (zone.known request waits)
      (zone.queued request waits) ?_ operated
    · simp [SlotClaims.setZone, ZoneSlot.detach, waits]
    · intro gone other task
      exact zone.dropped request waits gone
  · obtain rfl := Option.some.inj stepped
    exact moved

/-- Every step keeps the zones tidy, unless it withdraws a request under its task. -/
theorem Tidy.step (tidy : state.Tidy) {label : ClaimLabel} (kept : state.KeepsRequests label)
    (stepped : state.step label = some next) : next.Tidy := by
  have free : ∀ other, (none : Option String) = some other → ¬ state.Awaits other := by simp
  cases label with
  | requestSlot zoneId manual =>
    obtain rfl := Option.some.inj stepped
    have zone := tidy.zones zoneId
    unfold ZoneSlot.ensureSlotRequest
    split
    · cases task : (state.zones zoneId).slotTask with
      | none =>
        refine tidy.setZone (tidy_of_idle (by simp) (by simp) zone.ineligible) ?_
        simp [task]
      | some current =>
        refine tidy.setZone (sameTask_tidy zone (by simp [task]) rfl zone.ineligible) fun _ => .inl ?_
        simp_all
    · exact tidy.setZone (sameTask_tidy zone rfl rfl zone.ineligible) fun cancelled => .inl cancelled
  -- A release takes no request from the queue.
  | releaseSlot zoneId =>
    exact tidy.operate stepped rfl free
      (fun slots zone => sameTask_tidy zone rfl rfl zone.ineligible) fun cancelled => .inl cancelled
  -- The condition says that no task awaits what is withdrawn.
  | withdrawSlot zoneId =>
    simp only [SlotClaims.step] at stepped
    split at stepped
    · exact tidy.operate stepped rfl (fun other same => Option.some.inj same ▸ kept)
        (fun slots zone => sameTask_tidy zone rfl rfl zone.ineligible)
        fun cancelled => .inl cancelled
    · cases stepped
  -- The new request is in the queue, or granted at once.
  | startTask zoneId =>
    simp only [SlotClaims.step] at stepped
    split at stepped
    · rename_i starting
      obtain ⟨run, operated, rfl⟩ := operate_eq_some stepped
      obtain ⟨requested, handle⟩ := tidy.request starting operated
      have zone := tidy.zones zoneId
      refine requested.setZone ⟨?_, ?_, ?_, by simp, zone.ineligible⟩ (by simp [starting])
      · rintro request ⟨rfl⟩
        exact handle.known
      · rintro request ⟨rfl⟩ pending
        exact handle.reached.resolve_left pending.1
      · rintro request ⟨rfl⟩ gone
        exact absurd gone handle.live
    · cases stepped
  -- A granted task stops to wait and goes on with its offer.
  | resumeTask zoneId =>
    have zone := tidy.zones zoneId
    simp only [SlotClaims.step] at stepped
    split at stepped
    · rename_i request waits
      split at stepped
      · obtain rfl := Option.some.inj stepped
        refine tidy.setZone ?_ (by simp [waits])
        unfold ZoneSlot.resume
        split <;> exact tidy_of_idle (by simp) (by simp) zone.ineligible
      · cases stepped
    · cases stepped
  | releaseTask zoneId =>
    simp only [SlotClaims.step] at stepped
    split at stepped
    · rename_i ineligible
      exact tidy.operate stepped rfl free
        (fun slots zone => tidy_of_idle (by simp) (by simp) zone.ineligible) (by simp [ineligible])
    · cases stepped
  | finishTask zoneId =>
    have zone := tidy.zones zoneId
    simp only [SlotClaims.step] at stepped
    split at stepped
    · rename_i manual offering
      obtain rfl := Option.some.inj stepped
      exact tidy.setZone (tidy_of_idle (by simp) (by simp) zone.ineligible) (by simp [offering])
    · cases stepped
  | wakeCancelled zoneId =>
    have zone := tidy.zones zoneId
    simp only [SlotClaims.step] at stepped
    split at stepped
    · rename_i request waits
      split at stepped
      · rename_i gone
        obtain rfl := Option.some.inj stepped
        exact tidy.setZone ⟨by simp, by simp, by simp, fun _ => .inr (zone.dropped request waits gone),
          zone.ineligible⟩ fun _ => .inl rfl
      · cases stepped
    · cases stepped
  -- A cancelled task awaits nothing any more.
  | withdrawTask zoneId =>
    simp only [SlotClaims.step] at stepped
    split at stepped
    · rename_i cancelled
      refine tidy.operate stepped rfl (fun other same => ?_)
        (fun slots zone => tidy_of_idle (by simp) (by simp) zone.ineligible) fun _ => .inr rfl
      obtain rfl := Option.some.inj same
      rintro ⟨request, waits, -⟩
      cases cancelled.symm.trans waits
    · cases stepped
  | detach zoneId => exact tidy.detach stepped
  | beginQuiescing zoneId =>
    obtain rfl := Option.some.inj stepped
    exact tidy.setZone (sameTask_tidy (tidy.zones zoneId) rfl rfl fun _ => rfl)
      fun cancelled => .inl cancelled
  | updateOwnership zoneId active =>
    obtain rfl := Option.some.inj stepped
    exact tidy.setZone (sameTask_tidy (tidy.zones zoneId) rfl rfl
      fun (detaching : (state.zones zoneId).detaching = true) => by simp [detaching])
      fun cancelled => .inl cancelled
  | entryCancelRequest zoneId =>
    exact tidy.manage stepped rfl fun other same => Option.some.inj same ▸ kept
  | closeAdmissionNow =>
    simp only [SlotClaims.step] at stepped
    obtain ⟨managed, operated, rfl⟩ := Option.map_eq_some_iff.mp stepped
    obtain ⟨run, closing, rfl⟩ := manage_eq_some operated
    exact tidy.close closing
  | addBlocker | removeBlocker | persisted | enableGrants | disableGrants | setReconciliation =>
    exact tidy.manage stepped rfl free

/-! ## Runs -/

/-- The entry as it starts: nobody has asked for the slot. -/
def initial (eligible : String → Bool) : SlotClaims :=
  { zones := fun zoneId => { runtimeEligible := eligible zoneId } }

theorem initial_tidy (eligible : String → Bool) : (initial eligible).Tidy where
  safe := SlotRun.safe_initial
  futures := ⟨SlotRun.safe_initial.handles, by simp [initial]⟩
  cancelling := by simp [initial]
  zones zoneId := tidy_of_idle (by simp [initial]) (by simp [initial]) (by simp [initial])

/-- A slot task that still waits has its request in the queue. -/
def WaitsQueued (state : SlotClaims) : Prop :=
  ∀ zoneId request, (state.zones zoneId).slotTask = some (.waiting request) →
    state.run.slots.Pending request → ⟨zoneId, request⟩ ∈ state.run.slots.queue

/-- `async_request` hands out a live handle, and `RequestSlot` leaves an eligible zone with
a claim to the slot while admission is not closed for good. -/
structure RequestStep (label : ClaimLabel) (next : SlotClaims) : Prop where
  handle : ∀ zoneId, label = .startTask zoneId → ∀ request,
    (next.zones zoneId).slotTask = some (.waiting request) → request ∉ next.run.slots.cancelled
  claim : ∀ zoneId manual, label = .requestSlot zoneId manual →
    (next.zones zoneId).runtimeEligible = true → next.closed = false → next.HasClaim zoneId

/-- A starting task gets a live handle. -/
theorem Tidy.startTask (tidy : state.Tidy) {zoneId : String}
    (stepped : state.step (.startTask zoneId) = some next) :
    ∀ request, (next.zones zoneId).slotTask = some (.waiting request) →
      request ∉ next.run.slots.cancelled := by
  simp only [SlotClaims.step] at stepped
  split at stepped
  · rename_i starting
    obtain ⟨run, operated, rfl⟩ := operate_eq_some stepped
    have handle := (tidy.request starting operated).2
    intro request waits
    obtain rfl : (state.run.slots.request zoneId).2 = request := by
      simpa [SlotClaims.setZone] using waits
    exact handle.live
  · cases stepped

/-- `RequestSlot` starts a slot task, or finds one whose claim still stands. -/
theorem Tidy.requestSlot (tidy : state.Tidy) {zoneId : String} {manual : Option Seconds}
    (kept : state.KeepsRequests (.requestSlot zoneId manual))
    (stepped : state.step (.requestSlot zoneId manual) = some next)
    (eligible : (next.zones zoneId).runtimeEligible = true) (admitting : next.closed = false) :
    next.HasClaim zoneId := by
  obtain rfl := Option.some.inj stepped
  have zone := tidy.zones zoneId
  have before : (state.zones zoneId).runtimeEligible = true := by
    by_contra ineligible
    simp [SlotClaims.setZone, ZoneSlot.ensureSlotRequest, ineligible] at eligible
  have consumes : state.Consumes zoneId → SlotClaims.HasClaim
      (state.setZone zoneId ((state.zones zoneId).ensureSlotRequest manual)) zoneId :=
    fun consuming => .inl (kept consuming)
  have task : ((state.zones zoneId).ensureSlotRequest manual).slotTask =
      (state.zones zoneId).slotTask.or (some .starting) := by
    simp [ZoneSlot.ensureSlotRequest, before]
  cases current : (state.zones zoneId).slotTask with
  | none =>
    refine .inr (.inr ?_)
    simp [SlotClaims.setZone, task, current]
  | some pending =>
    cases pending with
    | starting =>
      refine .inr (.inr ?_)
      simp [SlotClaims.setZone, task, current]
    | waiting request =>
      by_cases granted : request ∈ state.run.slots.granted
      · exact consumes (by simpa [Consumes, current] using granted)
      · by_cases gone : request ∈ state.run.slots.cancelled
        · have closed : state.closed = true := zone.dropped request current gone
          cases admitting.symm.trans closed
        · exact .inr (.inl ⟨_, zone.queued request current ⟨granted, gone⟩, rfl, gone⟩)
    | cancelled =>
      rcases zone.cancelled current with detaching | closed
      · cases before.symm.trans (zone.ineligible detaching)
      · cases admitting.symm.trans closed
    | ineligible => exact consumes (by simp [Consumes, current])
    | offering pendingManual => exact consumes (by simp [Consumes, current])

/-- In every run that withdraws no request under its task and asks for no slot while the
task is busy with a grant given up, a waiting task is queued, handles are live, and
`RequestSlot` leaves a claim. -/
theorem requestsKept_of_run {eligible : String → Bool} {finish : SlotClaims}
    (reached : system.Run (fun state label _ => state.KeepsRequests label) (initial eligible)
      finish) :
    finish.WaitsQueued ∧ ∀ label next, finish.KeepsRequests label →
      system.step finish label = some next → RequestStep label next := by
  have tidy : finish.Tidy := reached.preserves (initial_tidy eligible)
    fun _ _ _ tidy stepped kept => tidy.step kept stepped
  refine ⟨fun zoneId => (tidy.zones zoneId).queued, fun label next kept stepped => ⟨?_, ?_⟩⟩
  · rintro zoneId rfl
    exact tidy.startTask stepped
  · rintro zoneId manual rfl eligible admitting
    exact tidy.requestSlot kept stepped eligible admitting

/-- A zone asks for the slot. -/
theorem requestsKept_of_run_requested :
    ∃ finish, system.step (initial fun _ => true) (.requestSlot "bed" none) = some finish ∧
      finish.WaitsQueued ∧ ∀ label next, finish.KeepsRequests label →
        system.step finish label = some next → RequestStep label next :=
  ⟨_, rfl, requestsKept_of_run
    (.step (.requestSlot "bed" none) .refl rfl fun consuming => by cases consuming)⟩

/-- The zone is disabled while it waits: `ReleaseSlot` takes the request out of the queue
and leaves its future pending for ever. -/
def disabledWhileQueuedLabels : List ClaimLabel :=
  [.requestSlot "bed" none, .startTask "bed", .releaseSlot "bed", .withdrawSlot "bed"]

/-- The slot task of a zone disabled in the queue waits for a request that is gone, and
later requests are absorbed by it. -/
theorem not_requestsKept_disabled_while_queued :
    ¬ ∀ finish, system.Run (fun _ _ _ => True) (initial fun _ => true) finish →
      finish.WaitsQueued ∧ ∀ label next, system.step finish label = some next →
        RequestStep label next := by
  intro kept
  obtain ⟨finish, executed, stranded⟩ := (Option.any_eq_true _ _).mp
    (by decide +kernel :
      (system.run (initial fun _ => true) disabledWhileQueuedLabels).any fun finish =>
        (finish.zones "bed").slotTask = some (.waiting 0) ∧ finish.run.slots.granted = [] ∧
          finish.run.slots.cancelled = [] ∧ finish.run.slots.queue = [])
  obtain ⟨waits, granted, cancelled, queue⟩ := of_decide_eq_true stranded
  have queued := (kept finish (.of_run executed)).1 "bed" 0 waits (by
    simp [SlotManager.Pending, granted, cancelled])
  simp [queue] at queued

end SlotClaims

end MoistureLoop
